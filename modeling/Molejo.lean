import Molejo.Lib.Table
import Molejo.Lib.Transition
import Molejo.Lib.VersionedMap
import Molejo.Store.Basic
import Molejo.Domain.RuntimeConfig
import Molejo.Parameters.Store
import Molejo.Parameters.Protocol
import Molejo.Parameters.Integrity
import Molejo.Store.Schema
import Molejo.Store.Operation
import Molejo.Store.Completion
import Molejo.Store.AppEnvironment
import Molejo.Store.Deployment
import Molejo.Store.Observation
import Molejo.Store.Cluster
import Molejo.Store.Dispatch
import Molejo.Store.System
import Molejo.Store.Report
import Molejo.Store.Effect
import Molejo.Lib.Lease
import Molejo.Store.Fencing
import Molejo.Lib.Keyed
import Molejo.Store.Registry
import Molejo.Store.Rows
import Molejo.Store.LeaseSafety
import Molejo.Store.DeploymentOrder
import Molejo.Store.Publishing
import Molejo.Store.Serving
import Molejo.Store.Storage
import Molejo.Store.Acceptance
import Molejo.Store.Replicas
import Molejo.Store.Deletion
import Molejo.Delivery.Build
import Molejo.Delivery.Target
import Molejo.Delivery.System
import Molejo.Delivery.Queue
import Molejo.Delivery.Order
import Molejo.Store.Revocation
import Molejo.Store.Mounts
import Molejo.Store.Saving
import Molejo.Store.Quiescence
import Molejo.Agent.Registry
import Molejo.Agent.Effect
import Molejo.Agent.Lifecycle
import Molejo.Agent.Enrollment
import Molejo.Agent.Sessions
import Molejo.Identity.Directory
import Molejo.Identity.Governance
import Molejo.Parameters.PlainText
import Molejo.Parameters.Rows
import Molejo.Store.Command
import Molejo.Store.Retention
import Molejo.Store.Fidelity
import Molejo.Lib.ApiObject
import Molejo.Runtime.Deadline
import Molejo.Runtime.Volume
import Molejo.Runtime.AppDeployment
import Molejo.Parameters.History
import Molejo.Store.Bindings
import Molejo.Store.Versions
import Molejo.Store.Secrets
import Molejo.Runtime.FixedValues
import Molejo.Store.Orderly
import Molejo.Store.Recovery
import Molejo.Delivery.Lifecycle
import Molejo.Delivery.Redelivery
import Molejo.Delivery.Isolation
import Molejo.Delivery.Fencing
import Molejo.Delivery.Inbox
import Molejo.Identity.Authentication
import Molejo.Lib.Epoch
import Molejo.Identity.AuthEffect
import Molejo.Identity.Passwords
import Molejo.Identity.SecondFactor
import Molejo.Lib.Session
import Molejo.Store.BindingObservation
import Molejo.Store.Heartbeats
import Molejo.Agent.Crashes
import Molejo.Store.Placement
import Molejo.Store.VolumeResults
import Molejo.Store.Attempts
import Molejo.Query.Broker
import Molejo.Runtime.Detach
import Molejo.Runtime.Hostname
import Molejo.Runtime.Accepted
import Molejo.Runtime.Environment
import Molejo.Query.PodLogs
import Molejo.Query.Events
