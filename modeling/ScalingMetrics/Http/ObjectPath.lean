import ScalingMetrics.Metric.Address

/-!
# Paths to values of objects

A path is `namespaces/{namespace}/{resource}/{name}/{metric}`, or the last three segments alone for
objects outside namespaces. Slashes at either end do not count.
-/

namespace ScalingMetrics

/-- What a path to values names. -/
structure ObjectPath where
  ns : String
  groupResource : GroupResource
  /-- The name of an object, or `*` for all. -/
  name : String
  metric : String
deriving DecidableEq

namespace ObjectPath

/-- The path of three segments in a namespace; none of the three may be empty. -/
def ofSegments? (ns resource name metric : List Char) : Option ObjectPath :=
  if resource.isEmpty || name.isEmpty || metric.isEmpty then none
  else some ⟨.ofList ns, .parse (.ofList resource), .ofList name, .ofList metric⟩

/-- The word that a namespace stands behind. -/
def namespacesWord : List Char := "namespaces".toList

/-- Reads a path. -/
def parse? (path : String) : Option ObjectPath :=
  match Text.splitOn '/' (Text.trimSeparators '/' path.toList) with
  | [word, ns, resource, name, metric] =>
    if word = namespacesWord then ofSegments? ns resource name metric else none
  | [resource, name, metric] => ofSegments? [] resource name metric
  | _ => none

/-- The address that the path asks for: at the root if no namespace is named. -/
def address (p : ObjectPath) : CustomAddress := ⟨p.groupResource, !p.ns.isEmpty, p.metric⟩

/-- Whether the path asks for all objects. -/
def isWildcard (p : ObjectPath) : Bool := p.name == "*"

end ObjectPath

end ScalingMetrics
