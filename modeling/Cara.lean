import Cara.Checks
import Cara.GraphHealth
import Cara.GraphCycles
import Cara.GraphActors
import Cara.GraphCompatibility
import Cara.RequiredRuns
import Cara.Reshape
import Cara.ReshapeActor
import Cara.Github.StackMergeIdentity
import Cara.Github.StackPrefixPlan
import Cara.Lib.JsonText
import Cara.Lib.JsonRecord
import Cara.Lib.StableSort
import Cara.CheckRecord
import Cara.ForceIntent
import Cara.GenerationSlots
import Cara.Config
import Cara.Budget
import Cara.BudgetCapacity
import Cara.BudgetPrefix
import Cara.Github.StackModel
import Cara.Github.StackRead
import Cara.Github.StackLock
import Cara.Github.StackMerge
import Cara.Github.StackLand
import Cara.Github.StackLandOrder
import Cara.Github.StackLandRuns
import Cara.Lib.Conversation
import Cara.Github.StackMergeOutcome
import Cara.Github.StackWrite
import Cara.Github.StackReshape
import Cara.Github.StackReshapeRuns
import Cara.Lib.Interleave
import Cara.OperationLock
import Cara.OperationLockSystem
import Cara.OperationLockExclusion
import Cara.PauseRuns
import Cara.Admission
import Cara.AdmissionOrder
import Cara.Eligibility
import Cara.AdmissionAncestors
import Cara.Sync.Provider
import Cara.Sync.StackPolicy
import Cara.Sync.Progress
import Cara.Sync.Scheduler
import Cara.Sync.NativeLand
import Cara.Sync.NativeDrain
import Cara.Sync.Checkpoints
import Cara.Sync.NativeRequests
import Cara.Sync.NativeLandConvergence
import Cara.Sync.NativeDrainRuns
import Cara.Sync.NativeLandRetirement
import Cara.Sync.NativeLandStale
import Cara.Sync.OrphanLocks
import Cara.Sync.GraphGates
import Cara.Lib.Fence
import Cara.RemoteLease
import Cara.RemoteLeaseSystem
import Cara.CiDispatch
import Cara.CiDispatchRuns
import Cara.Lib.AtomicRefs
import Cara.PhysicalRebase
import Cara.Lib.Lines
import Cara.Lib.CommitGraph
import Cara.PhysicalReplay
import Cara.Sync.RebaseChains
import Cara.Sync.RebaseChainResume
import Cara.Sync.RebaseChainReports
import Cara.Sync.RebaseChainRuns
import Cara.Sync.RebaseChainRoot
import Cara.Concat
import Cara.ConcatExecute
import Cara.ConcatRuns
import Cara.ConcatOutcome
import Cara.Journal
import Cara.JournalRuns
import Cara.Lib.Loop
import Cara.HostedTenancy
import Cara.HostedTenancyRuns
import Cara.Unpark
import Cara.UnparkRuns
import Cara.CheckAnalysis
import Cara.Membership.Policy
import Cara.Membership.PreflightAgreement
import Cara.Membership.Execution
import Cara.Membership.Execute
import Cara.Membership.EnvelopeRuns
import Cara.Membership.Atomicity
import Cara.Repair.Session
import Cara.Repair.Resolution
import Cara.Repair.EditScope
import Cara.PauseStorage
import Cara.Sync.RootMerge
import Cara.Lib.Total
import Cara.Sync.RootMergeCalls
import Cara.Sync.WholeDrain
import Cara.Recovery.Ledger
import Cara.Recovery.LedgerRuns
import Cara.Lib.JsonPointer
import Cara.Recovery.Request
import Cara.CiAdmissionGate
import Cara.AdmissionFront
import Cara.Sync.AdmissionStall
import Cara.AdmissionProofs
import Cara.Lib.Splice
import Cara.GraphRevision
import Cara.ConcatHealth
import Cara.Command.Spec
import Cara.Command.Receipt
import Cara.Command.Runner
import Cara.Command.Passes
import Cara.Command.Coverage
import Cara.Command.Fenced
import Cara.Lib.Hex
import Cara.Sync.AutoSkip
import Cara.Lib.Ends
import Cara.Sync.AutoSkipRuns
import Cara.Sync.StackEvidence
import Cara.Lib.Observe
import Cara.StackMembership
import Cara.Sync.CiGenerations
import Cara.Sync.CiDiagnosis
import Cara.PhysicalRange
import Cara.PhysicalTopology
import Cara.Lib.Fields
import Cara.SquashEquivalence
import Cara.SquashRuns
import Cara.Navigation
import Cara.NavigationRuns
import Cara.Lib.Recorded
import Cara.Sync.RootAuthority
import Cara.Sync.DrainOrder
import Cara.Sync.ForceMerge
import Cara.Sync.ForceMergeRuns
import Cara.Sync.RootAutoMerge
import Cara.Github.StackRecovery
import Cara.Github.RequiredPolicy
import Cara.Github.HistoricalBranch
import Cara.NativeStackRebase
import Cara.NativeStackRepair
import Cara.Priority
import Cara.Lib.JsonSorted
import Cara.Lib.Logged
import Cara.Sync.Parking
import Cara.Sync.ParkingRuns
import Cara.Lib.Calendar
import Cara.Lib.Decimal
import Cara.Timestamp
