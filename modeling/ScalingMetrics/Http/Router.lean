import ScalingMetrics.Health.Document
import ScalingMetrics.Http.ObjectPath
import ScalingMetrics.Http.Query
import ScalingMetrics.Http.View
import ScalingMetrics.Json.Writer
import ScalingMetrics.Store.Basic
import ScalingMetrics.Telemetry.Exposition

/-!
# Answers to requests

The program answers health checks, the meters and the two metric APIs. All routes are read-only: any
other method than `GET` and `HEAD` is refused.
-/

namespace ScalingMetrics

namespace Http

/-- An answer. An answer without content type has an empty body. -/
structure Response where
  status : Nat
  contentType : Option String
  body : String
deriving DecidableEq

namespace Response

/-- An answer without a body. -/
def bare (status : Nat) : Response := ⟨status, none, ""⟩

/-- An answer in plain text. -/
def plain (status : Nat) (body : String) : Response :=
  ⟨status, some "text/plain; charset=utf-8", body⟩

/-- A document as an answer. -/
def document (status : Nat) (j : Json) : Response := ⟨status, some "application/json", j.render⟩

/-- The status document of a failure as an answer. -/
def failure (e : ApiError) : Response := document e.code e.toJson

/-- An answer without its body. -/
def withoutBody (r : Response) : Response := { r with body := "" }

end Response

/-- What the routes read. -/
structure Site where
  store : Store
  health : HealthRegistry
  meters : Meters

/-! ### Routes -/

/-- What a path leads to, before its escapes are decoded. -/
inductive Route where
  | healthz
  | readyz
  | meters
  | customDiscovery
  | customValues (path : List Char)
  | externalDiscovery
  | externalValues (ns metric : List Char)
deriving DecidableEq

/-- The path of the API for values of objects. -/
def customRoot : String := "/apis/" ++ customGroupVersion

/-- The path of the API for other values. -/
def externalRoot : String := "/apis/" ++ externalGroupVersion

/-- What follows a text, if it comes first. -/
def stripStart? (start cs : List Char) : Option (List Char) :=
  if cs.take start.length = start then some (cs.drop start.length) else none

/-- Namespace and metric in the rest of a path. The metric may not be empty. -/
def externalSegments? (rest : List Char) : Option Route :=
  match Text.splitOn '/' rest with
  | [ns, metric] => if metric.isEmpty then none else some (.externalValues ns metric)
  | _ => none

/-- The route of a path. -/
def route? (path : List Char) : Option Route :=
  if path = "/healthz".toList then some .healthz
  else if path = "/readyz".toList then some .readyz
  else if path = "/metrics".toList then some .meters
  else if path = customRoot.toList then some .customDiscovery
  else if path = externalRoot.toList then some .externalDiscovery
  else
    match stripStart? (customRoot ++ "/").toList path with
    | some rest => if rest.isEmpty then none else some (.customValues rest)
    | none =>
      (stripStart? (externalRoot ++ "/namespaces/").toList path).bind externalSegments?

/-! ### Handlers -/

/-- The health, with a failure code if a component does not work. -/
def answerHealth (h : HealthRegistry) : Response :=
  .document (if h.health.condition = .unhealthy then 503 else 200) h.health.toJson

/-- The readiness, with a failure code if the program is not ready. -/
def answerReadiness (h : HealthRegistry) : Response :=
  .document (if h.readiness.ready then 200 else 503) h.readiness.toJson

/-- Reads the selector of a query; without one everything is selected. -/
def querySelector : Option String → Except ApiError Selector
  | none => .ok .everything
  | some s =>
    match Selector.parse s with
    | .ok selector => .ok selector
    | .error e => .error (.invalidSelector e)

/-- The failure to find what a path names. -/
def notFound (p : ObjectPath) : ApiError := .metricNotFound p.groupResource.render p.name p.metric

/-- The values that a path selects. A wildcard finds nothing only where the metric is not listed. -/
def objectValues (s : Store) (p : ObjectPath) (q : SelectorQuery) :
    Except ApiError (List ObjectValue) :=
  if p.isWildcard then
    match querySelector q.labelSelector with
    | .error e => .error e
    | .ok selector =>
      let values := s.bySelector p.address p.ns selector
      if values.isEmpty && !s.customAddresses.contains p.address then .error (notFound p)
      else .ok values
  else
    match querySelector q.metricLabelSelector with
    | .error e => .error e
    | .ok selector =>
      match s.byName? p.address p.ns p.name selector with
      | none => .error (notFound p)
      | some v => .ok [v]

/-- The documents of the values that can be served. Each other one is logged and left out. -/
def serveAll {α : Type} (view : α → Except ApiError Json) (metric : String) :
    List α → Traced (List Json)
  | [] => pure []
  | v :: rest => do
    match view v with
    | .ok j => return j :: (← serveAll view metric rest)
    | .error e =>
      Traced.line .warn "Dropping unrenderable metric value"
        [("metric", .text metric), ("error", .text e.message)]
      serveAll view metric rest

/-- Answers a request for values of objects. -/
def answerObjects (s : Store) (path : String) (q : SelectorQuery) : Traced Response :=
  match ObjectPath.parse? path with
  | none => pure (.failure .notFound)
  | some p => do
    Traced.line .debug "Custom metrics request"
      [("namespace", .text p.ns), ("resource", .text p.groupResource.render),
        ("name", .text p.name), ("metric", .text p.metric)]
    match objectValues s p q with
    | .error e => return .failure e
    | .ok values =>
      let items ← serveAll ObjectValue.view p.metric values
      return .document 200 (valueList "MetricValueList" customGroupVersion items)

/-- Answers a request for other values. -/
def answerExternal (s : Store) (ns metric : String) (q : SelectorQuery) : Traced Response :=
  match querySelector q.labelSelector with
  | .error e => pure (.failure e)
  | .ok selector => do
    Traced.line .debug "External metrics request"
      [("namespace", .text ns), ("metric", .text metric), ("selector", .text selector.render)]
    let items ← serveAll ExternalValue.view metric (s.externalValues ns metric selector)
    return .document 200 (valueList "ExternalMetricValueList" externalGroupVersion items)

/-- The answer to a path whose escapes are not text. -/
def malformedPath (segment : String) : Response :=
  .plain 400 ("Invalid URL: Invalid UTF-8 in \x60" ++ segment ++ "\x60")

/-- Goes on with the query, unless it names a selector twice. -/
def withQuery (query : List Char) (answer : SelectorQuery → Traced Response) : Traced Response :=
  match SelectorQuery.parse query with
  | .ok q => answer q
  | .error name =>
    pure (.plain 400
      ("Failed to deserialize query string: duplicate field \x60" ++ name ++ "\x60"))

/-- Answers a request on a route. -/
def answerRoute (site : Site) (query : List Char) : Route → Traced Response
  | .healthz => pure (answerHealth site.health)
  | .readyz => pure (answerReadiness site.health)
  | .meters => pure (.plain 200 site.meters.exposition)
  | .customDiscovery => pure (.document 200 (customDiscovery site.store.customAddresses))
  | .externalDiscovery => pure (.document 200 (externalDiscovery site.store.externalAddresses))
  | .customValues path =>
    match decodeSegment? path with
    | none => pure (malformedPath "path")
    | some path => withQuery query (answerObjects site.store path)
  | .externalValues ns metric =>
    match decodeSegment? ns, decodeSegment? metric with
    | none, _ => pure (malformedPath "namespace")
    | some _, none => pure (malformedPath "metric")
    | some ns, some metric => withQuery query (answerExternal site.store ns metric)

/-- Answers a request for an address by a method. -/
def answer (site : Site) (method address : String) : Traced Response :=
  let (path, query) := splitAddress address
  match route? path with
  | none => pure (.bare 404)
  | some route =>
    if method = "GET" then answerRoute site query route
    else if method = "HEAD" then return (← answerRoute site query route).withoutBody
    else pure (.bare 405)

end Http

end ScalingMetrics
