import CloudCluster.Json
import CloudCluster.Provider

/-!
What is asked for: a cluster on a provider.

A `ClusterSpec` is never changed once made; the `with…` functions give a new
one. `ClusterSpec.ofJson?` reads a spec and `ClusterSpec.toJson` writes it with
every field.
-/

namespace CloudCluster

/-- A provider and the place and credentials to use with it. -/
structure ProviderSpec where
  provider : Provider
  credentialsFile : Option String := none
  region : Option String := none
  zone : Option String := none
  deriving DecidableEq, Repr

/-- The cluster name when none is given. -/
def defaultClusterName : String := "stratus-cluster"

/-- The number of workers when none is given. -/
def defaultWorkerCount : UInt32 := 4

/-- A description of a cluster. The number of workers is exact; a node type
that is not given is left to the template. -/
structure ClusterSpec where
  provider : ProviderSpec
  projectName : Option String := none
  clusterName : String := defaultClusterName
  workerCount : UInt32 := defaultWorkerCount
  headNodeType : Option String := none
  workerNodeType : Option String := none
  deriving DecidableEq, Repr

namespace ProviderSpec

/-- Reads a provider spec; provider names are in lower case. -/
def ofJson? (json : Json) : Option ProviderSpec := do
  let record ← json.asRecord? 4
  let provider ← (← (← record.field "provider" 0).asName?) |> Provider.ofName?
  let credentialsFile ← record.optionalString "credentials_file" 1
  let region ← record.optionalString "region" 2
  let zone ← record.optionalString "zone" 3
  return { provider, credentialsFile, region, zone }

/-- Writes a provider spec with every field. -/
def toJson (spec : ProviderSpec) : Json :=
  .object [
    ("provider", .string spec.provider.name),
    ("credentials_file", .ofOption spec.credentialsFile),
    ("region", .ofOption spec.region),
    ("zone", .ofOption spec.zone)]

end ProviderSpec

namespace ClusterSpec

/-- Reads a cluster spec; name and number of workers have to be given. -/
def ofJson? (json : Json) : Option ClusterSpec := do
  let record ← json.asRecord? 6
  let provider ← ProviderSpec.ofJson? (← record.field "provider" 0)
  let projectName ← record.optionalString "project_name" 1
  let clusterName ← (← record.field "cluster_name" 2).asString?
  let workerCount ← (← record.field "worker_count" 3).asUInt32?
  let headNodeType ← record.optionalString "head_node_type" 4
  let workerNodeType ← record.optionalString "worker_node_type" 5
  return { provider, projectName, clusterName, workerCount, headNodeType, workerNodeType }

/-- Writes a cluster spec with every field. -/
def toJson (spec : ClusterSpec) : Json :=
  .object [
    ("provider", spec.provider.toJson),
    ("project_name", .ofOption spec.projectName),
    ("cluster_name", .string spec.clusterName),
    ("worker_count", .integer spec.workerCount.toNat),
    ("head_node_type", .ofOption spec.headNodeType),
    ("worker_node_type", .ofOption spec.workerNodeType)]

/-- The spec with another project. -/
def withProject (spec : ClusterSpec) (project : String) : ClusterSpec :=
  { spec with projectName := some project }

/-- The spec with another name. -/
def withClusterName (spec : ClusterSpec) (name : String) : ClusterSpec :=
  { spec with clusterName := name }

/-- The spec with another number of workers. -/
def withWorkerCount (spec : ClusterSpec) (count : UInt32) : ClusterSpec :=
  { spec with workerCount := count }

/-- The spec with a head node type. -/
def withHeadNodeType (spec : ClusterSpec) (type : String) : ClusterSpec :=
  { spec with headNodeType := some type }

/-- The spec with a worker node type. -/
def withWorkerNodeType (spec : ClusterSpec) (type : String) : ClusterSpec :=
  { spec with workerNodeType := some type }

/-- The spec with a credentials file. -/
def withCredentialsFile (spec : ClusterSpec) (path : String) : ClusterSpec :=
  { spec with provider := { spec.provider with credentialsFile := some path } }

/-- The spec with a region. -/
def withRegion (spec : ClusterSpec) (region : String) : ClusterSpec :=
  { spec with provider := { spec.provider with region := some region } }

/-- The spec with an availability zone. -/
def withZone (spec : ClusterSpec) (zone : String) : ClusterSpec :=
  { spec with provider := { spec.provider with zone := some zone } }

end ClusterSpec

end CloudCluster
