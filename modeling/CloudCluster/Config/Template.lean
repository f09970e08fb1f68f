import CloudCluster.Config.Basic

/-!
The base template: a config that is complete but for what a spec says.
-/

namespace CloudCluster.ClusterConfig

open Yaml

/-- A mapping with string keys. -/
def fields (entries : List (String × Value)) : Entries :=
  entries.map fun (key, value) => (.string key, value)

/-- A sequence of strings. -/
def texts (items : List String) : Value :=
  .sequence (items.map .string)

/-- The mapping of keys to values. -/
def record (entries : List (String × Value)) : Value :=
  .mapping (fields entries)

/-- The config that specs are filled into when no other template is given. The
name, the numbers of workers, the provider's type and the user are always
overwritten. -/
def baseTemplate : ClusterConfig where
  root := fields [
    ("cluster_name", .string "default"),
    ("min_workers", .integer 2),
    ("max_workers", .integer 2),
    ("initial_workers", .integer 2),
    ("autoscaling_mode", .string "default"),
    ("target_utilization_fraction", .float (.ofDecimal false 8 (-1))),
    ("idle_timeout_minutes", .integer 5),
    ("docker", record [
      ("image", .string ""),
      ("container_name", .string "")]),
    ("provider", record [
      ("type", .string "aws"),
      ("region", .string "us-west-1"),
      ("availability_zone", .string "us-west-1a,us-west-1b"),
      ("cache_stopped_nodes", .bool false)]),
    ("auth", record [
      ("ssh_user", .string "ubuntu")]),
    ("head_node", record [
      ("InstanceType", .string "m5.large"),
      ("ImageId", .string "latest_dlami"),
      ("BlockDeviceMappings", .sequence [record [
        ("DeviceName", .string "/dev/sda1"),
        ("Ebs", record [("VolumeSize", .integer 100)])]])]),
    ("worker_nodes", record [
      ("InstanceType", .string "m5.large"),
      ("ImageId", .string "latest_dlami"),
      ("InstanceMarketOptions", record [("MarketType", .string "spot")])]),
    ("file_mounts", .mapping []),
    ("initialization_commands", .sequence []),
    ("setup_commands", texts [
      "wget -nc -P /tmp https://repo.anaconda.com/miniconda/Miniconda3-latest-Linux-x86_64.sh",
      "bash /tmp/Miniconda3-latest-Linux-x86_64.sh -b -u -p ~/miniconda",
      "~/miniconda/bin/conda create -y -n stratus python=3.11 || true",
      "~/miniconda/envs/stratus/bin/pip install -U ray pandas"]),
    ("head_setup_commands", .sequence []),
    ("worker_setup_commands", .sequence []),
    ("head_start_ray_commands", texts [
      "~/miniconda/envs/stratus/bin/ray stop",
      "ulimit -n 65536; ~/miniconda/envs/stratus/bin/ray start --head --port=6379 " ++
        "--autoscaling-config=~/ray_bootstrap_config.yaml"]),
    ("worker_start_ray_commands", texts [
      "~/miniconda/envs/stratus/bin/ray stop",
      "ulimit -n 65536; ~/miniconda/envs/stratus/bin/ray start " ++
        "--address=$RAY_HEAD_IP:6379"])]

end CloudCluster.ClusterConfig
