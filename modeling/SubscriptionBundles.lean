import SubscriptionBundles.Billing.Anchor
import SubscriptionBundles.Billing.CycleDay
import SubscriptionBundles.Billing.Policy
import SubscriptionBundles.Bundle.AddOnLimit
import SubscriptionBundles.Bundle.Basic
import SubscriptionBundles.Bundle.Batch
import SubscriptionBundles.Bundle.Snapshot
import SubscriptionBundles.Bundle.StartDate
import SubscriptionBundles.Calendar.Date
import SubscriptionBundles.Calendar.DayNumber
import SubscriptionBundles.Calendar.Instant
import SubscriptionBundles.Calendar.TimeOfDay
import SubscriptionBundles.Calendar.Written
import SubscriptionBundles.Catalog.Basic
import SubscriptionBundles.Catalog.Plan
import SubscriptionBundles.Context
import SubscriptionBundles.DryRun.AddOnStatus
import SubscriptionBundles.DryRun.Arguments
import SubscriptionBundles.DryRun.Simulation
import SubscriptionBundles.Error
import SubscriptionBundles.Identity
import SubscriptionBundles.Metrics
import SubscriptionBundles.Order.StableSort
import SubscriptionBundles.Proofs.ActiveKeys
import SubscriptionBundles.Proofs.ActiveStates
import SubscriptionBundles.Proofs.AddOnCap
import SubscriptionBundles.Proofs.AddOnFates
import SubscriptionBundles.Proofs.AllOrNothing
import SubscriptionBundles.Proofs.AnchorCounts
import SubscriptionBundles.Proofs.AnchoredAddOns
import SubscriptionBundles.Proofs.AnsweredCancellations
import SubscriptionBundles.Proofs.Bases
import SubscriptionBundles.Proofs.BatchOrder
import SubscriptionBundles.Proofs.BillingDates
import SubscriptionBundles.Proofs.BillingDays
import SubscriptionBundles.Proofs.CacheTransparency
import SubscriptionBundles.Proofs.CachedIdentities
import SubscriptionBundles.Proofs.Calls
import SubscriptionBundles.Proofs.CallsApart
import SubscriptionBundles.Proofs.CancellationOrder
import SubscriptionBundles.Proofs.Cancellations
import SubscriptionBundles.Proofs.ChangeDates
import SubscriptionBundles.Proofs.ChangePreviews
import SubscriptionBundles.Proofs.Classification
import SubscriptionBundles.Proofs.Commit
import SubscriptionBundles.Proofs.CopiedKeys
import SubscriptionBundles.Proofs.CountedCalls
import SubscriptionBundles.Proofs.CountedChanges
import SubscriptionBundles.Proofs.Counters
import SubscriptionBundles.Proofs.DateOrder
import SubscriptionBundles.Proofs.Decisions
import SubscriptionBundles.Proofs.Disturbances
import SubscriptionBundles.Proofs.DisturbedCalls
import SubscriptionBundles.Proofs.DueEvents
import SubscriptionBundles.Proofs.Endings
import SubscriptionBundles.Proofs.EventOrder
import SubscriptionBundles.Proofs.HeededEvents
import SubscriptionBundles.Proofs.KeyHolders
import SubscriptionBundles.Proofs.KeyLengths
import SubscriptionBundles.Proofs.LastEvents
import SubscriptionBundles.Proofs.LaterCalls
import SubscriptionBundles.Proofs.LeftAlone
import SubscriptionBundles.Proofs.LegalBatches
import SubscriptionBundles.Proofs.LetThrough
import SubscriptionBundles.Proofs.Lifetime
import SubscriptionBundles.Proofs.LimitedChanges
import SubscriptionBundles.Proofs.ListedBases
import SubscriptionBundles.Proofs.Listings
import SubscriptionBundles.Proofs.LiveCounts
import SubscriptionBundles.Proofs.LocalDates
import SubscriptionBundles.Proofs.NamedInstants
import SubscriptionBundles.Proofs.NewBillingDays
import SubscriptionBundles.Proofs.NewRecords
import SubscriptionBundles.Proofs.NextEvents
import SubscriptionBundles.Proofs.NumberedEvents
import SubscriptionBundles.Proofs.Orphans
import SubscriptionBundles.Proofs.Outcomes
import SubscriptionBundles.Proofs.Paging
import SubscriptionBundles.Proofs.PhaseLengths
import SubscriptionBundles.Proofs.PhaseOrder
import SubscriptionBundles.Proofs.PhaseSchedules
import SubscriptionBundles.Proofs.PlanChanges
import SubscriptionBundles.Proofs.PlanInForce
import SubscriptionBundles.Proofs.PlanLookups
import SubscriptionBundles.Proofs.PlanNames
import SubscriptionBundles.Proofs.PlannedBatches
import SubscriptionBundles.Proofs.Planning
import SubscriptionBundles.Proofs.PolicyOrder
import SubscriptionBundles.Proofs.ReadBack
import SubscriptionBundles.Proofs.RecordMessages
import SubscriptionBundles.Proofs.RelabelledPlans
import SubscriptionBundles.Proofs.Relabelling
import SubscriptionBundles.Proofs.ReorderedCalls
import SubscriptionBundles.Proofs.Runs
import SubscriptionBundles.Proofs.SettledTimelines
import SubscriptionBundles.Proofs.SimulatedEvents
import SubscriptionBundles.Proofs.SingleAnchor
import SubscriptionBundles.Proofs.SplitCalls
import SubscriptionBundles.Proofs.StartGates
import SubscriptionBundles.Proofs.StartPreviews
import SubscriptionBundles.Proofs.StopPreviews
import SubscriptionBundles.Proofs.StoreChanges
import SubscriptionBundles.Proofs.StoredEvents
import SubscriptionBundles.Proofs.StoredIdentities
import SubscriptionBundles.Proofs.StoredPlans
import SubscriptionBundles.Proofs.StoredPreviews
import SubscriptionBundles.Proofs.SummedCounters
import SubscriptionBundles.Proofs.Sweeps
import SubscriptionBundles.Proofs.SweptAddOns
import SubscriptionBundles.Proofs.TakenKeys
import SubscriptionBundles.Proofs.TransitionChains
import SubscriptionBundles.Proofs.TurnKeys
import SubscriptionBundles.Proofs.WrittenInstants
import SubscriptionBundles.Service.Basic
import SubscriptionBundles.Service.Bundles
import SubscriptionBundles.Service.Changes
import SubscriptionBundles.Service.Creation
import SubscriptionBundles.Service.DryRuns
import SubscriptionBundles.Service.Request
import SubscriptionBundles.Service.Subscriptions
import SubscriptionBundles.Settings
import SubscriptionBundles.Settings.EntryPath
import SubscriptionBundles.Store.Basic
import SubscriptionBundles.Store.Error
import SubscriptionBundles.Store.Storage
import SubscriptionBundles.Text.Case
import SubscriptionBundles.Text.CaseTable
import SubscriptionBundles.Text.Digits
import SubscriptionBundles.Text.Hex
import SubscriptionBundles.Text.Ranges
import SubscriptionBundles.Timeline.Event
import SubscriptionBundles.Timeline.Projection
import SubscriptionBundles.Timeline.Schedule
import SubscriptionBundles.Timeline.Standing
import SubscriptionBundles.Timeline.Subscription
import SubscriptionBundles.Uuid.Basic
import SubscriptionBundles.Uuid.Bytes
import SubscriptionBundles.Uuid.Sha1
import SubscriptionBundles.Wire.Answer
import SubscriptionBundles.Wire.Bundle
import SubscriptionBundles.Wire.Catalog
import SubscriptionBundles.Wire.Context
import SubscriptionBundles.Wire.Timeline
import SubscriptionBundles.Wire.Value
