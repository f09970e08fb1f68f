import CloudCluster.Lifecycle.Errand
import CloudCluster.Main
import CloudCluster.Proofs.Lifecycle.Exclusion
import CloudCluster.Proofs.Lifecycle.Refinement
import CloudCluster.Proofs.Lifecycle.Callers
import CloudCluster.Proofs.Lifecycle.Account
import CloudCluster.Proofs.Lifecycle.Delivery
import CloudCluster.Proofs.Lifecycle.States
import CloudCluster.Proofs.Files.Path
import CloudCluster.Proofs.Files.Tree
import CloudCluster.Proofs.Files.Directory
import CloudCluster.Proofs.Files.Action
import CloudCluster.Proofs.Store.Slot
import CloudCluster.Proofs.Store.Persist
import CloudCluster.Proofs.Store.History
import CloudCluster.Proofs.Yaml.Same
import CloudCluster.Proofs.Yaml.Write
import CloudCluster.Proofs.Store.Equal
import CloudCluster.Proofs.CommandLine.Connect
import CloudCluster.Proofs.Yaml.Distinct
import CloudCluster.Proofs.Lifecycle.Once
import CloudCluster.Proofs.Cluster
import CloudCluster.Proofs.Config.Parents
import CloudCluster.Proofs.Store.Failure
import CloudCluster.Proofs.Shell.Words
import CloudCluster.Proofs.Shell.Quote
import CloudCluster.Proofs.Lifecycle.Rejection
import CloudCluster.Proofs.Lifecycle.Inquiries
import CloudCluster.Proofs.Config.Access
import CloudCluster.Proofs.Config.Fields
import CloudCluster.Proofs.Files.Kept
import CloudCluster.Proofs.Store.Answer
import CloudCluster.Proofs.Shell.Percent
import CloudCluster.Proofs.Shell.Bare
import CloudCluster.Proofs.CommandLine.SshCommand
import CloudCluster.Proofs.Tool.Mock
import CloudCluster.Proofs.Config.Levels
import CloudCluster.Proofs.Settings.Layer
import CloudCluster.Proofs.Tool.Address
import CloudCluster.Proofs.Settings.Variable
import CloudCluster.Proofs.Settings.Load
