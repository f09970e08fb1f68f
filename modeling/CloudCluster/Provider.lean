import CloudCluster.Error

/-!
Cloud providers and their profiles.

A `Provider` names a cloud. What the config builder and the provisioning tool
need to know about a cloud is its `Profile`; `Provider.profile` finds it and
fails in one way only for a cloud that has none.
-/

namespace CloudCluster

/-- The clouds a cluster can be requested on. -/
inductive Provider where
  | aws
  | gcp
  | azure
  deriving DecidableEq, Repr

namespace Provider

/-- The name written into `provider.type` of a cluster config. -/
def name : Provider → String
  | aws => "aws"
  | gcp => "gcp"
  | azure => "azure"

/-- The provider with exactly this name. -/
def ofName? (name : String) : Option Provider :=
  if name = "aws" then some aws
  else if name = "gcp" then some gcp
  else if name = "azure" then some azure
  else none

/-- The provider with this name, ASCII letters in either case. -/
def parse (text : String) : Except ClusterError Provider :=
  match ofName? (text.map Char.toLower) with
  | some provider => .ok provider
  | none => .error (.unsupportedProvider text)

end Provider

/-- What is known of a cloud: the keys its configs use and the environment
variable that names the credentials file. -/
structure Profile where
  instanceTypeKey : String
  credentialsVariable : String
  regionKey : String
  zoneKey : String
  deriving DecidableEq, Repr

namespace Profile

/-- Amazon Web Services. -/
def aws : Profile where
  instanceTypeKey := "InstanceType"
  credentialsVariable := "AWS_CONFIG_FILE"
  regionKey := "region"
  zoneKey := "zone"

/-- The fields under `provider` that hold a region and a zone; an empty text
counts as absent. -/
def placementFields (profile : Profile) (region zone : Option String) :
    List (String × String) :=
  ((region.filter (· ≠ "")).map ((profile.regionKey, ·))).toList ++
    ((zone.filter (· ≠ "")).map ((profile.zoneKey, ·))).toList

end Profile

/-- The profile of a provider. Only Amazon Web Services has one. -/
def Provider.profile : Provider → Except ClusterError Profile
  | .aws => .ok .aws
  | provider => .error (.unsupportedProvider provider.name)

end CloudCluster
