import StoryGraph.Main
import StoryGraph.Script.Codec
import StoryGraph.Session
import StoryGraph.Settings.Codec
import StoryGraph.Draft.Codec
import StoryGraph.Lint.Codec
import StoryGraph.Proofs.Overrides
import StoryGraph.Proofs.Playthrough
import StoryGraph.Proofs.DraftText
import StoryGraph.Proofs.GraphText
import StoryGraph.Proofs.Sessions
import StoryGraph.Proofs.Showings
import StoryGraph.Proofs.Traces
import StoryGraph.Proofs.FallThrough
import StoryGraph.Proofs.Tolerance
import StoryGraph.Proofs.ByteOrder
import StoryGraph.Proofs.Recoveries
import StoryGraph.Proofs.Accounting
import StoryGraph.Proofs.Edits
import StoryGraph.Proofs.Inertness
import StoryGraph.Proofs.Renaming
import StoryGraph.Proofs.Skeleton
import StoryGraph.Proofs.InPlace
import StoryGraph.Proofs.SceneReferences
import StoryGraph.Proofs.Highlighting
import StoryGraph.Proofs.Drawing
import StoryGraph.Proofs.Indexing
import StoryGraph.Proofs.SceneChecks
import StoryGraph.Proofs.Counts
import StoryGraph.Proofs.Ingestion
import StoryGraph.Proofs.StandingValues
import StoryGraph.Proofs.Commands
