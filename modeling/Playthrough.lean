import Playthrough.Main
import Playthrough.Rehearsal
import Playthrough.Proofs.Calls
import Playthrough.Proofs.LogPath
import Playthrough.Proofs.IssueOrder
import Playthrough.Proofs.IssueSurfaces
import Playthrough.Proofs.Superseded
import Playthrough.Proofs.Backstage
import Playthrough.Proofs.Delivery
import Playthrough.Proofs.SceneDelivery
import Playthrough.Proofs.Retelling
import Playthrough.Proofs.OfferedChoices
import Playthrough.Proofs.ProgramGone
import Playthrough.Proofs.SelectedPoint
import Playthrough.Proofs.ConsoleRehearsal
import Playthrough.Proofs.ConsoleAtRest
import Playthrough.Proofs.RequestOrder
import Playthrough.Proofs.SelectionGuard
import Playthrough.Proofs.Transcript
import Playthrough.Proofs.TranscriptPages
import Playthrough.Proofs.SpelledScalars
import Playthrough.Proofs.ClosedTrees
import Playthrough.Proofs.SpelledValues
import Playthrough.Proofs.WrittenScalars
import Playthrough.Proofs.WrittenValues
import Playthrough.Proofs.LooseRecords
import Playthrough.Proofs.LooseMessages
import Playthrough.Proofs.LineRoundTrip
import Playthrough.Proofs.LatestContent
import Playthrough.Proofs.StoryGrammar
import Playthrough.Proofs.Chronicles
import Playthrough.Proofs.Traffic
import Playthrough.Proofs.ReplyStream
import Playthrough.Proofs.ReceivingEnds
import Playthrough.Proofs.CompileTimes
import Playthrough.Proofs.FailedLooks
import Playthrough.Proofs.ConcurrentSaves
import Playthrough.Proofs.NearestDefinitions
import Playthrough.Proofs.DivertArguments
import Playthrough.Proofs.IssueRounds
import Playthrough.Proofs.IssueSelection
import Playthrough.Proofs.Words
import Playthrough.Proofs.TypedLines
import Playthrough.Proofs.IssueVisits
import Playthrough.Proofs.ExactDoubles
import Playthrough.Proofs.RefreshedIssues
import Playthrough.Proofs.CursorBounds
import Playthrough.Proofs.CommandLines
import Playthrough.Proofs.ConsoleActs
import Playthrough.Proofs.PanelLines
import Playthrough.Proofs.IssueView
