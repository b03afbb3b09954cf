import CookedMode.Config.Document
import CookedMode.Main
import CookedMode.Proofs.Discipline.Completion
import CookedMode.Proofs.Discipline.Failure
import CookedMode.Proofs.Discipline.Transcript
import CookedMode.Proofs.Discipline.Typing
import CookedMode.Proofs.Discipline.Echo
import CookedMode.Proofs.Discipline.Output
import CookedMode.Proofs.Discipline.Splitting
import CookedMode.Proofs.Channel.Delivery
import CookedMode.Proofs.Session.Feeding
import CookedMode.Proofs.Session.Schedule
import CookedMode.Proofs.Session.Traffic
import CookedMode.Proofs.Session.Overdraft
import CookedMode.Proofs.Session.Readline
import CookedMode.Proofs.History.Cycle
import CookedMode.Proofs.History.Recall
import CookedMode.Proofs.History.Walk
import CookedMode.Proofs.History.Retrace
import CookedMode.Proofs.History.RoundTrip
import CookedMode.Proofs.Workspace.Restart
import CookedMode.Proofs.History.Newest
import CookedMode.Proofs.Session.Waiting
import CookedMode.Proofs.Session.Use
import CookedMode.Proofs.Session.Visible
import CookedMode.Proofs.Session.Finite
import CookedMode.Proofs.Session.Eager
import CookedMode.Proofs.Session.Settling
import CookedMode.Proofs.History.Undisturbed
import CookedMode.Proofs.History.Occurrence
import CookedMode.Proofs.History.Eviction
import CookedMode.Proofs.History.Loading
import CookedMode.Proofs.History.Exposure
import CookedMode.Proofs.Command.Search
import CookedMode.Proofs.Discipline.Broadcast
import CookedMode.Proofs.Config.Agreement
import CookedMode.Proofs.Command.Ending
