import ActorLocation.Actor
import ActorLocation.Ascii
import ActorLocation.Catalog
import ActorLocation.Cluster
import ActorLocation.Config
import ActorLocation.Digest.Sha256
import ActorLocation.Digits
import ActorLocation.Directory.AnyBackend
import ActorLocation.Directory.Backend
import ActorLocation.Directory.InMemory
import ActorLocation.Directory.OverStore
import ActorLocation.Directory.Service
import ActorLocation.Format.Config
import ActorLocation.Format.Identity
import ActorLocation.Format.Membership
import ActorLocation.Format.Placement
import ActorLocation.Ip.Basic
import ActorLocation.Ip.Parser
import ActorLocation.Ip.Printer
import ActorLocation.Json.Basic
import ActorLocation.Json.Numeral
import ActorLocation.Json.Parser
import ActorLocation.Json.Printer
import ActorLocation.Json.Quoted
import ActorLocation.Json.Shape
import ActorLocation.Locator.Basic
import ActorLocation.Locator.Call
import ActorLocation.Locator.Reconcile
import ActorLocation.Membership.Feed
import ActorLocation.Membership.Recipe
import ActorLocation.Membership.Snapshot
import ActorLocation.Node
import ActorLocation.Octets
import ActorLocation.Placement.Choice
import ActorLocation.Placement.RandomWords
import ActorLocation.Placement.Strategy
import ActorLocation.Proofs.Catalog.Capacity
import ActorLocation.Proofs.Catalog.Refinement
import ActorLocation.Proofs.Catalog.Roster
import ActorLocation.Proofs.Cluster.Events
import ActorLocation.Proofs.Cluster.Placeable
import ActorLocation.Proofs.Cluster.Survival
import ActorLocation.Proofs.Config.Consistency
import ActorLocation.Proofs.Digits
import ActorLocation.Proofs.Directory.Batches
import ActorLocation.Proofs.Directory.Contents
import ActorLocation.Proofs.Directory.Deletions
import ActorLocation.Proofs.Directory.Equivalence
import ActorLocation.Proofs.Directory.Flaky
import ActorLocation.Proofs.Directory.Freshness
import ActorLocation.Proofs.Directory.InTurn
import ActorLocation.Proofs.Directory.Lawful
import ActorLocation.Proofs.Directory.Monitored
import ActorLocation.Proofs.Directory.Numbering
import ActorLocation.Proofs.Directory.Registering
import ActorLocation.Proofs.Directory.StorageKeys
import ActorLocation.Proofs.Directory.Transcript
import ActorLocation.Proofs.Directory.Uneventful
import ActorLocation.Proofs.Directory.Unreliable
import ActorLocation.Proofs.Directory.Withdrawing
import ActorLocation.Proofs.Format.Faithful
import ActorLocation.Proofs.Format.Identity
import ActorLocation.Proofs.Format.Placement
import ActorLocation.Proofs.Ip.Colons
import ActorLocation.Proofs.Ip.Grammar
import ActorLocation.Proofs.Ip.RoundTrip
import ActorLocation.Proofs.Json.Holdable
import ActorLocation.Proofs.Json.Quoted
import ActorLocation.Proofs.Json.RoundTrip
import ActorLocation.Proofs.Json.Shape
import ActorLocation.Proofs.Locator.Cleanup
import ActorLocation.Proofs.Locator.Coalescing
import ActorLocation.Proofs.Locator.Effects
import ActorLocation.Proofs.Locator.Eviction
import ActorLocation.Proofs.Locator.Reached
import ActorLocation.Proofs.Locator.Reconcile
import ActorLocation.Proofs.Locator.Redo
import ActorLocation.Proofs.Locator.Registering
import ActorLocation.Proofs.Locator.Resolving
import ActorLocation.Proofs.Locator.Resumption
import ActorLocation.Proofs.Locator.Shutdown
import ActorLocation.Proofs.Locator.Transparency
import ActorLocation.Proofs.Locator.Versions
import ActorLocation.Proofs.Membership.Audience
import ActorLocation.Proofs.Membership.Death
import ActorLocation.Proofs.Membership.Succession
import ActorLocation.Proofs.Node.BareAddress
import ActorLocation.Proofs.Node.Spelling
import ActorLocation.Proofs.NodeOrder
import ActorLocation.Proofs.Placement.ActiveNodes
import ActorLocation.Proofs.Placement.Decisions
import ActorLocation.Proofs.Placement.Hashing
import ActorLocation.Proofs.Placement.Sampling
import ActorLocation.Proofs.Reconciler.Following
import ActorLocation.Proofs.Store.Journal
import ActorLocation.Proofs.Store.Lawful
import ActorLocation.Reconciler
import ActorLocation.Registration
import ActorLocation.Simulation.Basic
import ActorLocation.Simulation.Faults
import ActorLocation.Simulation.Follower
import ActorLocation.Simulation.Report
import ActorLocation.Simulation.Rivals
import ActorLocation.Sorting
import ActorLocation.Split
import ActorLocation.Store.Basic
import ActorLocation.Table
