import ScriptHost.Convert.Recipe
import ScriptHost.Evaluator.ModuleView
import ScriptHost.Evaluator.ScopeCommand
import ScriptHost.Guest.Initial
import ScriptHost.Proofs.Guest.Namespace
import ScriptHost.Proofs.Handle.Counts
import ScriptHost.Text.Digits
import ScriptHost.Proofs.Handle.Registry
import ScriptHost.Proofs.Handle.History
import ScriptHost.Proofs.Convert.ObjectGraph
import ScriptHost.Proofs.Value.Equality
import ScriptHost.Proofs.Value.MapEntries
import ScriptHost.Proofs.Value.Association
import ScriptHost.Proofs.Value.Built
import ScriptHost.Proofs.Value.MapHistory
import ScriptHost.Proofs.Convert.Holdings
import ScriptHost.Proofs.Convert.Conservation
import ScriptHost.Proofs.Convert.Rollback
import ScriptHost.Proofs.Guest.Growth
import ScriptHost.Proofs.Guest.Later
import ScriptHost.Proofs.Guest.Attributes
import ScriptHost.Proofs.Convert.Ordinary
import ScriptHost.Proofs.Convert.Recognition
import ScriptHost.Proofs.Convert.OrdinaryGraph
import ScriptHost.Proofs.Convert.Unfolding
import ScriptHost.Proofs.Convert.Inbound
import ScriptHost.Proofs.Evaluator.Inside
import ScriptHost.Proofs.Evaluator.Course
import ScriptHost.Proofs.Guest.Proceeding
import ScriptHost.Proofs.Value.Plain
import ScriptHost.Proofs.Convert.Standing
import ScriptHost.Proofs.Convert.Delivery
import ScriptHost.Proofs.Convert.Return
import ScriptHost.Proofs.Evaluator.Staging
import ScriptHost.Proofs.Evaluator.Handing
import ScriptHost.Proofs.Evaluator.Echo
import ScriptHost.Proofs.Evaluator.Passage
import ScriptHost.Proofs.Number.Rational
import ScriptHost.Proofs.Convert.Filing
import ScriptHost.Proofs.Value.RoundTrip
import ScriptHost.Proofs.Evaluator.Ending
import ScriptHost.Proofs.Evaluator.Answer
import ScriptHost.Proofs.Evaluator.Typed
import ScriptHost.Proofs.Convert.Pairing
import ScriptHost.Proofs.Guest.SystemPath
import ScriptHost.Proofs.Evaluator.SearchPath
import ScriptHost.Proofs.Evaluator.Starting
import ScriptHost.Proofs.Evaluator.SessionStart
import ScriptHost.Proofs.Evaluator.Reentry
import ScriptHost.Proofs.Reach.Refers
import ScriptHost.Proofs.Reach.Spares
import ScriptHost.Proofs.Reach.Attributes
import ScriptHost.Proofs.Reach.Printing
import ScriptHost.Proofs.Reach.Calls
import ScriptHost.Proofs.Reach.Conversion
import ScriptHost.Proofs.Evaluator.Confinement
import ScriptHost.Proofs.Evaluator.NamespaceAccess
import ScriptHost.Proofs.Evaluator.SessionNames
import ScriptHost.Proofs.Evaluator.StartingGlobals
import ScriptHost.Proofs.Evaluator.Lifecycle
import ScriptHost.Proofs.Evaluator.OneStart
import ScriptHost.Proofs.Evaluator.Notices
import ScriptHost.Proofs.Evaluator.StandardOutput
import ScriptHost.Proofs.Evaluator.LateOutput
import ScriptHost.Proofs.Convert.Resolution
import ScriptHost.Proofs.Handle.Releasing
import ScriptHost.Proofs.Value.Order
import ScriptHost.Proofs.Convert.Carrying
import ScriptHost.Proofs.Evaluator.Carriage
import ScriptHost.Proofs.Guest.LineCutting
import ScriptHost.Proofs.Value.FirstRefusal
import ScriptHost.Proofs.Value.Integers
import ScriptHost.Proofs.Evaluator.ReloadPass
import ScriptHost.Proofs.Evaluator.HandleGuards
