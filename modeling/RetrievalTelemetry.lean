import RetrievalTelemetry.EventLog.Rows
import RetrievalTelemetry.Logging.Line
import RetrievalTelemetry.Logging.Template
import RetrievalTelemetry.Main
import RetrievalTelemetry.Proofs.Binary64.Order
import RetrievalTelemetry.Proofs.Binary64.Range
import RetrievalTelemetry.Proofs.Binary64.Canonical
import RetrievalTelemetry.Proofs.Binary64.Bound
import RetrievalTelemetry.Proofs.EventLog.Append
import RetrievalTelemetry.Proofs.Report.Offset
import RetrievalTelemetry.Proofs.Report.Facts
import RetrievalTelemetry.Proofs.Report.Totals
import RetrievalTelemetry.Proofs.Report.Attempts
import RetrievalTelemetry.Proofs.Report.Permutation
import RetrievalTelemetry.Proofs.EventLog.Contents
import RetrievalTelemetry.Proofs.EventLog.Statements
import RetrievalTelemetry.Proofs.EventLog.History
import RetrievalTelemetry.Proofs.EventLog.Linkage
import RetrievalTelemetry.Proofs.Intake.Batch
import RetrievalTelemetry.Proofs.Live.Slots
import RetrievalTelemetry.Proofs.Live.Queue
import RetrievalTelemetry.Proofs.Live.Sound
import RetrievalTelemetry.Proofs.Live.Expiry
import RetrievalTelemetry.Proofs.Live.Plain
import RetrievalTelemetry.Proofs.Live.Reading
import RetrievalTelemetry.Proofs.Live.Handles
import RetrievalTelemetry.Proofs.Live.Clock
import RetrievalTelemetry.Proofs.Live.Refinement
import RetrievalTelemetry.Proofs.Live.Census
import RetrievalTelemetry.Proofs.Live.Track
import RetrievalTelemetry.Proofs.Metric.Limits
import RetrievalTelemetry.Proofs.Intake.Record
import RetrievalTelemetry.Proofs.EventLog.Refusal
import RetrievalTelemetry.Proofs.Provider.Replies
import RetrievalTelemetry.Proofs.Provider.Workers
import RetrievalTelemetry.Proofs.Metering.Tally
import RetrievalTelemetry.Proofs.Metering.Action
import RetrievalTelemetry.Proofs.Metering.Delivered
import RetrievalTelemetry.Proofs.Metering.Lineage
import RetrievalTelemetry.Proofs.Metering.Rate
import RetrievalTelemetry.Proofs.Metering.Success
import RetrievalTelemetry.Proofs.Metering.Faults
import RetrievalTelemetry.Proofs.Metering.Kinds
import RetrievalTelemetry.Proofs.Metering.Category
import RetrievalTelemetry.Proofs.Metering.Account
import RetrievalTelemetry.Proofs.Metering.FirstByte
import RetrievalTelemetry.Proofs.Metering.Apart
import RetrievalTelemetry.Proofs.Correlator.Run
import RetrievalTelemetry.Proofs.Correlator.Conservation
import RetrievalTelemetry.Proofs.Correlator.Separation
import RetrievalTelemetry.Proofs.Correlator.Calls
import RetrievalTelemetry.Proofs.Correlator.Delivery
import RetrievalTelemetry.Proofs.Correlator.Faults
import RetrievalTelemetry.Proofs.Correlator.Agreement
import RetrievalTelemetry.Proofs.Correlator.Funnel
import RetrievalTelemetry.Proofs.Correlator.Latency
import RetrievalTelemetry.Proofs.Service.Ingestion
import RetrievalTelemetry.Proofs.Report.Percentile
import RetrievalTelemetry.Proofs.Report.Rank
import RetrievalTelemetry.Proofs.Report.Existence
import RetrievalTelemetry.Proofs.Report.Definition
import RetrievalTelemetry.Proofs.CommandLine.Sharing
import RetrievalTelemetry.Proofs.Provider.Transparency
import RetrievalTelemetry.Proofs.Provider.Recency
import RetrievalTelemetry.Proofs.Provider.Requests
import RetrievalTelemetry.Proofs.Provider.Alone
import RetrievalTelemetry.Proofs.Correlator.Naming
import RetrievalTelemetry.Proofs.Binary64.Accuracy
import RetrievalTelemetry.Proofs.Time.Nearest
import RetrievalTelemetry.Proofs.Time.Search
import RetrievalTelemetry.Proofs.Time.Grammar
import RetrievalTelemetry.Proofs.Intake.Duration
import RetrievalTelemetry.Proofs.Yaml.Overlay
import RetrievalTelemetry.Proofs.Yaml.Depth
import RetrievalTelemetry.Proofs.Settings.Precedence
import RetrievalTelemetry.Proofs.Yaml.PlainText
import RetrievalTelemetry.Proofs.Yaml.Faults
import RetrievalTelemetry.Proofs.Settings.Reporting
import RetrievalTelemetry.Proofs.Live.Representation
import RetrievalTelemetry.Proofs.Binary64.Between
import RetrievalTelemetry.Proofs.Binary64.Zeros
import RetrievalTelemetry.Proofs.Report.Interpolation
import RetrievalTelemetry.Proofs.Intake.Timestamp
import RetrievalTelemetry.Proofs.Intake.Delivery
