import ObjectView.Debug.SymbolFile
import ObjectView.Memory.Snapshot
import ObjectView.Log.Journal
import ObjectView.Memory.Live
import ObjectView.DisplayOptions
import ObjectView.Describe
import ObjectView.Proofs.Conversation
import ObjectView.Proofs.Memory.ByteMap
import ObjectView.Proofs.Memory.Text
import ObjectView.Proofs.Memory.Word
import ObjectView.Proofs.Memory.Regions
import ObjectView.Proofs.Object.Recognition
import ObjectView.Proofs.Visualizer.Stages
import ObjectView.Proofs.Visualizer.Outcome
import ObjectView.Proofs.Visualizer.Course
import ObjectView.Proofs.Visualizer.Order
import ObjectView.Proofs.Visualizer.Reports
import ObjectView.Proofs.Debug.Visible
import ObjectView.Proofs.Debug.Search
import ObjectView.Proofs.Binary.Forward
import ObjectView.Proofs.Debug.Progress
import ObjectView.Proofs.Debug.Spans
import ObjectView.Proofs.Debug.Innermost
import ObjectView.Proofs.Debug.LoadedOnce
import ObjectView.Proofs.SideBySide
import ObjectView.Proofs.Visualizer.Independence
import ObjectView.Proofs.Visualizer.Custody
import ObjectView.Proofs.Visualizer.Intrinsics
import ObjectView.Proofs.Log.Setup
import ObjectView.Proofs.Memory.Patch
import ObjectView.Proofs.Memory.TextReads
import ObjectView.Proofs.Object.Checks
import ObjectView.Proofs.Debug.TypeWalk
import ObjectView.Proofs.Debug.CutShort
import ObjectView.Proofs.Object.Header
import ObjectView.Proofs.Memory.TopPage
import ObjectView.Proofs.Memory.Edits
import ObjectView.Proofs.Object.OwnBytes
import ObjectView.Proofs.Debug.Enclosed
import ObjectView.Proofs.Memory.Composing
import ObjectView.Proofs.Memory.LiveText
import ObjectView.Proofs.Memory.PastTop
import ObjectView.Proofs.Log.FilePlace
import ObjectView.Proofs.Log.WordFilter
import ObjectView.Proofs.Memory.Rescan
import ObjectView.Proofs.Memory.WordViews
