import MessageInspector.Simulation.FetchRehearsal
import MessageInspector.Simulation.ShowRehearsal
import MessageInspector.Proofs.Broker.Addresses
import MessageInspector.Proofs.Content.ScriptOrder
import MessageInspector.Proofs.Content.Tables
import MessageInspector.Proofs.Fetch.Downgrade
import MessageInspector.Proofs.Fetch.TextPreviews
import MessageInspector.Proofs.Present.DocumentFields
import MessageInspector.Proofs.Present.NonInterference
import MessageInspector.Proofs.Present.SafeMarkup
import MessageInspector.Proofs.Preview.TableCells
import MessageInspector.Proofs.Settings.Layers
import MessageInspector.Proofs.Settings.SavedSettings
import MessageInspector.Proofs.Time.TimestampTexts
import MessageInspector.Proofs.Viewer.CutPreviews
import MessageInspector.Proofs.Viewer.EligiblePreviews
import MessageInspector.Proofs.Viewer.FollowedBoard
import MessageInspector.Proofs.Viewer.LoneShow
import MessageInspector.Proofs.Viewer.Outcomes
import MessageInspector.Proofs.Viewer.PhaseCycle
import MessageInspector.Proofs.Viewer.RedactedViews
import MessageInspector.Proofs.Viewer.StaleAnswers
import MessageInspector.Proofs.Viewer.WidgetAccount
