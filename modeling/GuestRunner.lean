import GuestRunner.Arguments
import GuestRunner.Backend.Adaptor
import GuestRunner.Backend.Engine
import GuestRunner.Backend.Scripted
import GuestRunner.Capture.Basic
import GuestRunner.Catalogue
import GuestRunner.Failure.Stated
import GuestRunner.Files.Layout
import GuestRunner.Invocation.Result
import GuestRunner.Journal.Event
import GuestRunner.Journal.Lines
import GuestRunner.Processor.Alarm
import GuestRunner.Processor.Call
import GuestRunner.Processor.Construction
import GuestRunner.Processor.Deadline
import GuestRunner.Proofs.Backend.Classified
import GuestRunner.Proofs.Call.Course
import GuestRunner.Proofs.Call.Frame
import GuestRunner.Proofs.Call.Incidents
import GuestRunner.Proofs.Call.Logging
import GuestRunner.Proofs.Call.LostOutput
import GuestRunner.Proofs.Call.Measured
import GuestRunner.Proofs.Call.Payload
import GuestRunner.Proofs.Call.Trace
import GuestRunner.Proofs.Capture.Refinement
import GuestRunner.Proofs.Files.Removal
import GuestRunner.Proofs.Files.Spelling
import GuestRunner.Proofs.Group.Invariant
import GuestRunner.Proofs.Group.Isolation
import GuestRunner.Proofs.Guest.Wording
import GuestRunner.Proofs.Processor.Alarms
import GuestRunner.Proofs.Processor.Attained
import GuestRunner.Proofs.Processor.Brevity
import GuestRunner.Proofs.Processor.ClosedMeanwhile
import GuestRunner.Proofs.Processor.Counting
import GuestRunner.Proofs.Processor.Deadlines
import GuestRunner.Proofs.Processor.Delivery
import GuestRunner.Proofs.Processor.Failures
import GuestRunner.Proofs.Processor.Grammar
import GuestRunner.Proofs.Processor.Leftovers
import GuestRunner.Proofs.Processor.Listeners
import GuestRunner.Proofs.Processor.Setup
import GuestRunner.Proofs.Scratch.Ownership
import GuestRunner.Proofs.Session.Account
import GuestRunner.Proofs.Settings.Spelling
