import ScalingMetrics.Json.Basic

/-!
# Requests to the cluster

The cluster keeps its objects under paths of API group, version, namespace and kind. Names are put
into an address as they are. An address that holds a character which has to be escaped, or that is
too long, is not sent; a number sign ends the part that is sent.
-/

namespace ScalingMetrics

/-- A request to the cluster. -/
structure ClusterRequest where
  method : String
  /-- The path, and a question mark behind which options would stand. -/
  address : String
  body : Option Json

/-- The answer of the cluster. -/
structure ClusterResponse where
  status : Nat
  body : Json

namespace ClusterRequest

/-- The address of the objects of a kind, in a namespace or in all of them. -/
def objectsAddress (groupVersion : String) (ns : Option String) (plural : String) : String :=
  match ns with
  | none => "/apis/" ++ groupVersion ++ "/" ++ plural ++ "?"
  | some ns => "/apis/" ++ groupVersion ++ "/namespaces/" ++ ns ++ "/" ++ plural ++ "?"

/-- Whether a character may stand in a path as it is. -/
def isPathChar (c : Char) : Bool := '!' ≤ c && c ≤ '~' && !(['#', '<', '>', '?', '\x60'].contains c)

/-- Whether a character may stand in a query as it is. -/
def isQueryChar (c : Char) : Bool := '!' ≤ c && c ≤ '~' && !(['\x22', '#', '<', '>'].contains c)

/-- The greatest number of bytes in an address. -/
def addressLimit : Nat := 65534

/-- The part of an address that is sent, if it can be sent. -/
def sentPart? (address : String) : Option String :=
  let cs := address.toList.takeWhile (· ≠ '#')
  let path := cs.takeWhile (· ≠ '?')
  let query := cs.drop (path.length + 1)
  if path.all isPathChar && query.all isQueryChar && address.utf8ByteSize ≤ addressLimit then
    some (.ofList cs)
  else none

/-- The request as it is sent, if it can be sent. -/
def sent? (r : ClusterRequest) : Option ClusterRequest :=
  (sentPart? r.address).map fun address => { r with address }

end ClusterRequest

/-- Whether the answer is a failure. -/
def ClusterResponse.isFailure (r : ClusterResponse) : Bool := 400 ≤ r.status && r.status < 600

end ScalingMetrics
