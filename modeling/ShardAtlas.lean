import ShardAtlas.Main
import ShardAtlas.Bulk.Report
import ShardAtlas.Monitor.Cycle
import ShardAtlas.Payload.Joined
import ShardAtlas.Relocation.Dispatch
import ShardAtlas.Inventory.Record
import ShardAtlas.Payload.Detail
import ShardAtlas.Proofs.Conservation
import ShardAtlas.Proofs.Relocation
import ShardAtlas.Proofs.Supersession
import ShardAtlas.Proofs.SeriesLog
import ShardAtlas.Proofs.Resolution
import ShardAtlas.Proofs.Ensemble
import ShardAtlas.Proofs.TickOrder
import ShardAtlas.Proofs.RefreshWindow
import ShardAtlas.Proofs.SamplingFaults
import ShardAtlas.Proofs.ScopedInvalidation
import ShardAtlas.Proofs.Freshness
import ShardAtlas.Proofs.Timer
import ShardAtlas.Proofs.SnapshotValues
import ShardAtlas.Proofs.Survey
import ShardAtlas.Proofs.MoveRuns
import ShardAtlas.Proofs.Selection
import ShardAtlas.Proofs.Settling
import ShardAtlas.Proofs.BulkRun
import ShardAtlas.Proofs.CheckedParts
import ShardAtlas.Proofs.FlatImage
import ShardAtlas.Proofs.SharedIntervals
import ShardAtlas.Proofs.FaultyKeeper
import ShardAtlas.Proofs.DoubleRange
import ShardAtlas.Proofs.Overview
import ShardAtlas.Proofs.PlacementOrder
import ShardAtlas.Proofs.MoveRules
import ShardAtlas.Proofs.MoveDispatch
import ShardAtlas.Proofs.Destinations
import ShardAtlas.Proofs.Census
import ShardAtlas.Proofs.FetchOrder
import ShardAtlas.Proofs.RoutedCopies
import ShardAtlas.Proofs.IndexCounts
import ShardAtlas.Proofs.ChangedDocuments
import ShardAtlas.Proofs.CopyFigures
import ShardAtlas.Proofs.Concatenation
import ShardAtlas.Proofs.Numerals
import ShardAtlas.Proofs.ReadParts
import ShardAtlas.Proofs.ShardNumbers
import ShardAtlas.Proofs.MalformedDocuments
import ShardAtlas.Proofs.ReportedNumbers
import ShardAtlas.Proofs.NamedNodes
import ShardAtlas.Proofs.SeparateSeries
import ShardAtlas.Proofs.PublishingTimes
import ShardAtlas.Proofs.MoveCheck
import ShardAtlas.Proofs.CopyChoice
import ShardAtlas.Proofs.NamedDestinations
import ShardAtlas.Proofs.SpacedNumerals
import ShardAtlas.Proofs.IntervalTexts
import ShardAtlas.Proofs.RoleNames
import ShardAtlas.Proofs.FixedPlaces
import ShardAtlas.Proofs.SizeUnits
import ShardAtlas.Proofs.ByteSizes
