import Evacuation.Main
import Evacuation.Rehearsal.Watch
import Evacuation.Proofs.Lists
import Evacuation.Proofs.KeyValue
import Evacuation.Proofs.NodeFilter.History
import Evacuation.Proofs.Office.Basic
import Evacuation.Proofs.Office.Duty
import Evacuation.Proofs.Schedule.Consistency
import Evacuation.Proofs.Schedule.Reservations
import Evacuation.Proofs.Office.Agreement
import Evacuation.Proofs.Office.Sound
import Evacuation.Proofs.Office.History
import Evacuation.Proofs.Office.Settled
import Evacuation.Proofs.Office.Play
import Evacuation.Proofs.Office.Drains
import Evacuation.Proofs.Office.Confinement
import Evacuation.Proofs.Office.DispatchPaths
import Evacuation.Proofs.Drain.Changes
import Evacuation.Proofs.Office.Trails
import Evacuation.Proofs.Office.Watch
import Evacuation.Proofs.Agency.Basic
import Evacuation.Proofs.Agency.Warrants
import Evacuation.Proofs.Agency.Play
import Evacuation.Proofs.Office.Endings
import Evacuation.Proofs.Office.Precedence
import Evacuation.Proofs.Office.Spacing
import Evacuation.Proofs.Time.Calendar
import Evacuation.Proofs.Drain.Pool
import Evacuation.Proofs.Drain.Account
import Evacuation.Proofs.Cluster.Reads
import Evacuation.Proofs.PodFilter.Rules
import Evacuation.Proofs.PodFilter.Eligibility
import Evacuation.Proofs.Drain.Planning
import Evacuation.Proofs.Eviction.Outcomes
import Evacuation.Proofs.Eviction.Deadline
import Evacuation.Proofs.Feed.Resumption
import Evacuation.Proofs.Feed.Attendance
import Evacuation.Proofs.Session.Basic
import Evacuation.Proofs.Session.Mild
import Evacuation.Proofs.Session.Turns
import Evacuation.Proofs.Session.Play
import Evacuation.Proofs.Session.Blocks
import Evacuation.Proofs.Session.Scheduling
import Evacuation.Proofs.Office.Screening
import Evacuation.Proofs.Office.Memory
import Evacuation.Proofs.Office.Redelivery
import Evacuation.Proofs.Office.Removal
import Evacuation.Proofs.Office.Recovery
import Evacuation.Proofs.Agency.DryRun
import Evacuation.Proofs.Course.Isolation
import Evacuation.Proofs.Settings.Precedence
import Evacuation.Proofs.Settings.Acceptance
import Evacuation.Proofs.Cordon.Effect
import Evacuation.Proofs.Time.Duration
import Evacuation.Proofs.Settings.Endings
import Evacuation.Proofs.Lifecycle.Threads
import Evacuation.Proofs.Lifecycle.Play
import Evacuation.Proofs.Lifecycle.Ends
import Evacuation.Proofs.Drain.Verdicts
import Evacuation.Proofs.Office.Records
import Evacuation.Proofs.Office.Times
import Evacuation.Proofs.Office.Lives
import Evacuation.Proofs.Decimal.Integer
import Evacuation.Proofs.Rereading
import Evacuation.Proofs.Cluster.Sendings
import Evacuation.Proofs.Drain.Totals
