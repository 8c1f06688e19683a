import IssueDesk.AttachForm
import IssueDesk.Backend.Script
import IssueDesk.CommandLine.Argument
import IssueDesk.CommandLine.Invocation
import IssueDesk.CommandLine.Outcome
import IssueDesk.Configuration.Source
import IssueDesk.Conflict
import IssueDesk.Decimal.Binary64
import IssueDesk.Files
import IssueDesk.FirstOccurrence
import IssueDesk.IssueMetadata
import IssueDesk.Json.Document
import IssueDesk.Json.Number
import IssueDesk.Json.Printer
import IssueDesk.Json.Value
import IssueDesk.KeyMap
import IssueDesk.KeySet
import IssueDesk.Log.Filter
import IssueDesk.Log.Record
import IssueDesk.Main
import IssueDesk.Picker.Fuzzy
import IssueDesk.Picker.InstancePicker
import IssueDesk.Picker.ProjectPicker
import IssueDesk.Proofs.AttachRequests
import IssueDesk.Proofs.CodecEdits
import IssueDesk.Proofs.EditorGate
import IssueDesk.Proofs.EditorMismatches
import IssueDesk.Proofs.EditorProjects
import IssueDesk.Proofs.EditorRefusals
import IssueDesk.Proofs.EditorResets
import IssueDesk.Proofs.EditorSaves
import IssueDesk.Proofs.EditorSteps
import IssueDesk.Proofs.EditorSubmission
import IssueDesk.Proofs.EventValues
import IssueDesk.Proofs.FilterConflicts
import IssueDesk.Proofs.FirstOccurrences
import IssueDesk.Proofs.InstanceChoice
import IssueDesk.Proofs.LayeredLoading
import IssueDesk.Proofs.ProjectLoads
import IssueDesk.Proofs.ProjectReading
import IssueDesk.Proofs.ProjectToggle
import IssueDesk.Proofs.Rankings
import IssueDesk.Proofs.RecordReading
import IssueDesk.Proofs.SelectorAgreement
import IssueDesk.Proofs.SelectorCalls
import IssueDesk.Proofs.SelectorDebounce
import IssueDesk.Proofs.SelectorDelivery
import IssueDesk.Proofs.SelectorDisplay
import IssueDesk.Proofs.SelectorErasure
import IssueDesk.Proofs.SelectorErrors
import IssueDesk.Proofs.SelectorFrame
import IssueDesk.Proofs.SelectorHistory
import IssueDesk.Proofs.SelectorKnownLabels
import IssueDesk.Proofs.SelectorLabels
import IssueDesk.Proofs.SelectorLastSearch
import IssueDesk.Proofs.SelectorLedger
import IssueDesk.Proofs.SelectorLookups
import IssueDesk.Proofs.SelectorOrder
import IssueDesk.Proofs.SelectorRehearsal
import IssueDesk.Proofs.SelectorSearchSide
import IssueDesk.Proofs.SelectorSelection
import IssueDesk.Proofs.SelectorSilence
import IssueDesk.Proofs.SelectorSteps
import IssueDesk.Proofs.SelectorTakings
import IssueDesk.Proofs.SelectorUnmount
import IssueDesk.Proofs.ShownFailures
import IssueDesk.Proofs.SourceAnswers
import IssueDesk.Proofs.TrimmedText
import IssueDesk.Proofs.Underway
import IssueDesk.Proofs.UsualPlaces
import IssueDesk.Proofs.WireRoundTrips
import IssueDesk.Selector.Flavour
import IssueDesk.Selector.Rehearsal
import IssueDesk.Selector.Selection
import IssueDesk.Selector.Session
import IssueDesk.Selector.Source
import IssueDesk.Subscription.Editor
import IssueDesk.Subscription.Events
import IssueDesk.Subscription.Filters
import IssueDesk.Text.Character
import IssueDesk.Text.Quoted
import IssueDesk.Toml.Document
import IssueDesk.Toml.Moment
import IssueDesk.Toml.Number
import IssueDesk.Toml.Statement
import IssueDesk.Toml.Text
import IssueDesk.Toml.Value
import IssueDesk.Tracker.Entity
import IssueDesk.Tracker.Envelope
import IssueDesk.Wire.Codec
import IssueDesk.Wire.Fault
import IssueDesk.Wire.Record
