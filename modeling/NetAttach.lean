import NetAttach.Certificate.Sha512
import NetAttach.Certificate.Watcher
import NetAttach.Controller.UsageHandler
import NetAttach.Http.Answer
import NetAttach.Main
import NetAttach.Pod.Watcher
import NetAttach.Proofs.Admission.Agreement
import NetAttach.Proofs.Admission.Endpoint
import NetAttach.Proofs.Admission.Isolation
import NetAttach.Proofs.Admission.Submitted
import NetAttach.Proofs.Certificate.Retrying
import NetAttach.Proofs.Cni.Naming
import NetAttach.Proofs.Cni.Order
import NetAttach.Proofs.CommandLine.Override
import NetAttach.Proofs.Controller.Coalescing
import NetAttach.Proofs.Manifest.Report
import NetAttach.Proofs.Pod.Counted
import NetAttach.Proofs.Pod.Resumption
import NetAttach.Proofs.Settings.Range
import NetAttach.Proofs.Usage.Degrading
import NetAttach.Proofs.Usage.Independence
import NetAttach.Proofs.Usage.Ledger
import NetAttach.Proofs.Usage.PodCount
import NetAttach.Proofs.Usage.Published
import NetAttach.Proofs.Usage.Recovery
import NetAttach.Proofs.Usage.Undo
import NetAttach.Proofs.Usage.Union
import NetAttach.Proofs.WorkQueue.Doubling
import NetAttach.Proofs.WorkQueue.Schedule
import NetAttach.Proofs.WorkQueue.Shutdown
import NetAttach.Service
import NetAttach.Proofs.Selection.Shorthand
import NetAttach.Proofs.Selection.Tokens
import NetAttach.Proofs.Json.Records
import NetAttach.Proofs.Selection.TwoForms
