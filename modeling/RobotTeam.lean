import RobotTeam.CommandLine.Command
import RobotTeam.CommandLine.Invocation
import RobotTeam.CommandLine.Names
import RobotTeam.CommandLine.Options
import RobotTeam.Configuration.Basic
import RobotTeam.Configuration.Environment
import RobotTeam.Configuration.Layers
import RobotTeam.Count
import RobotTeam.Decimal.Double
import RobotTeam.Decimal.Layout
import RobotTeam.Decimal.Read
import RobotTeam.Decimal.Shortest
import RobotTeam.Document.Codec
import RobotTeam.Document.Configurations
import RobotTeam.Document.Datum
import RobotTeam.Document.FactBases
import RobotTeam.Document.Json.Reader
import RobotTeam.Document.Json.Writer
import RobotTeam.Document.Pools
import RobotTeam.Document.Restrictions
import RobotTeam.Document.Toml.Moment
import RobotTeam.Document.Toml.Number
import RobotTeam.Document.Toml.Reader
import RobotTeam.Document.Toml.Table
import RobotTeam.Document.Toml.Text
import RobotTeam.FactBase.Basic
import RobotTeam.FactBase.Description
import RobotTeam.Iri
import RobotTeam.Literal
import RobotTeam.Main
import RobotTeam.Mapping
import RobotTeam.Matching.Allocation
import RobotTeam.Matching.Script
import RobotTeam.Ontology
import RobotTeam.Organization.Basic
import RobotTeam.Organization.Support
import RobotTeam.Organization.Transport
import RobotTeam.Pool.Basic
import RobotTeam.Pool.Combination
import RobotTeam.Pool.Delta
import RobotTeam.Pool.SubPools
import RobotTeam.Program
import RobotTeam.Query.Basic
import RobotTeam.Query.Cache
import RobotTeam.Query.Total
import RobotTeam.QueryError
import RobotTeam.Redundancy.Basic
import RobotTeam.Redundancy.Leftovers
import RobotTeam.Redundancy.Rounds
import RobotTeam.Redundancy.Table
import RobotTeam.Redundancy.Team
import RobotTeam.Report.Basic
import RobotTeam.Report.Console
import RobotTeam.Restriction.Basic
import RobotTeam.Restriction.Bound
import RobotTeam.Restriction.Kind
import RobotTeam.Restriction.Solution
import RobotTeam.Support
import RobotTeam.Surroundings.Basic
import RobotTeam.Surroundings.FileTree
import RobotTeam.Survivability
import RobotTeam.Text.Characters
import RobotTeam.Text.CaseTable
import RobotTeam.Text.Lowercase
import RobotTeam.Text.MarkTable
import RobotTeam.Text.PrintTable
import RobotTeam.Text.Quoted
import RobotTeam.Text.Scan
import RobotTeam.Vocabulary
import RobotTeam.Proofs.Matching.Problem
import RobotTeam.Proofs.Matching.Solve
import RobotTeam.Proofs.Matching.Exchange
import RobotTeam.Proofs.Matching.Consumption
import RobotTeam.Proofs.Matching.Contention
import RobotTeam.Proofs.Matching.Shortage
import RobotTeam.Proofs.Redundancy.FullRedundancy
import RobotTeam.Proofs.Pool.Combination
import RobotTeam.Proofs.Pool.Odometer
import RobotTeam.Proofs.Pool.SubPools
import RobotTeam.Proofs.Mapping.Insertion
import RobotTeam.Proofs.Organization.Build
import RobotTeam.Proofs.Query.Answer
import RobotTeam.Proofs.Query.Interleaving
import RobotTeam.Proofs.Restriction.Merge
import RobotTeam.Proofs.Redundancy.Outcome
import RobotTeam.Proofs.Redundancy.Leftovers
import RobotTeam.Proofs.Redundancy.Minimums
import RobotTeam.Proofs.Survivability
import RobotTeam.Proofs.Redundancy.Growth
import RobotTeam.Proofs.Organization.UpwardClosed
import RobotTeam.Proofs.Organization.Classification
import RobotTeam.Proofs.Redundancy.Agreement
import RobotTeam.Proofs.Mapping.History
import RobotTeam.Proofs.Redundancy.InputOrder
import RobotTeam.Proofs.Redundancy.SharedUse
import RobotTeam.Proofs.Pool.Canonical
import RobotTeam.Proofs.FactBase.Hierarchy
import RobotTeam.Proofs.Redundancy.Conservation
import RobotTeam.Proofs.Organization.Fulfilment
import RobotTeam.Proofs.Redundancy.Table
import RobotTeam.Proofs.Query.Recorder
import RobotTeam.Proofs.Restriction.Subtraction
import RobotTeam.Proofs.Redundancy.Consultations
import RobotTeam.Proofs.Redundancy.Division
import RobotTeam.Proofs.Pool.Enumeration
import RobotTeam.Proofs.Organization.Saturation
import RobotTeam.Proofs.Organization.Distinct
import RobotTeam.Proofs.Organization.Monotone
import RobotTeam.Proofs.Query.Aggregation
import RobotTeam.Proofs.FactBase.Inheritance
import RobotTeam.Proofs.FactBase.Loading
import RobotTeam.Proofs.Pool.Conversion
import RobotTeam.Proofs.Survivability.SignedCounts
import RobotTeam.Proofs.Restriction.Affordable
import RobotTeam.Proofs.Restriction.Conjunction
import RobotTeam.Proofs.CommandLine.PoolEntries
import RobotTeam.Proofs.Document.JsonValues
import RobotTeam.Proofs.Document.RoundTrip
import RobotTeam.Proofs.Pool.Difference
import RobotTeam.Proofs.Pool.Meet
import RobotTeam.Proofs.Query.Capabilities
