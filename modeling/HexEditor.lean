import HexEditor.Checked
import HexEditor.Color
import HexEditor.Error
import HexEditor.Folder
import HexEditor.Frame
import HexEditor.Grid
import HexEditor.Highlight
import HexEditor.Json
import HexEditor.Layout
import HexEditor.Main
import HexEditor.Offset
import HexEditor.Poller
import HexEditor.Proofs.Address
import HexEditor.Proofs.Address.Grammar
import HexEditor.Proofs.Folder
import HexEditor.Proofs.Frame.Cells
import HexEditor.Proofs.Frame.Content
import HexEditor.Proofs.Frame.Hit
import HexEditor.Proofs.Frame.Rows
import HexEditor.Proofs.Frame.Scrolled
import HexEditor.Proofs.Grid.Columns
import HexEditor.Proofs.Grid.Flip
import HexEditor.Proofs.Grid.Hit
import HexEditor.Proofs.Grid.Place
import HexEditor.Proofs.Hex
import HexEditor.Proofs.Highlight.Absorbed
import HexEditor.Proofs.Highlight.Edit
import HexEditor.Proofs.Highlight.Keyed
import HexEditor.Proofs.Highlight.Layer
import HexEditor.Proofs.Highlight.Table
import HexEditor.Proofs.Highlight.Void
import HexEditor.Proofs.Json.Deleted
import HexEditor.Proofs.Json.Printed
import HexEditor.Proofs.Layout
import HexEditor.Proofs.Poller
import HexEditor.Proofs.Poller.Run
import HexEditor.Proofs.Poller.Timing
import HexEditor.Proofs.Selection
import HexEditor.Proofs.Selection.Bytes
import HexEditor.Proofs.Selection.Run
import HexEditor.Proofs.Session.Opened
import HexEditor.Proofs.Session.Saved
import HexEditor.Proofs.Settings
import HexEditor.Proofs.Source.Arrival
import HexEditor.Proofs.Source.Backed
import HexEditor.Proofs.Source.Countdown
import HexEditor.Proofs.Source.Memory
import HexEditor.Proofs.Source.Paged
import HexEditor.Proofs.Source.Repeats
import HexEditor.Proofs.Source.Unfetched
import HexEditor.Proofs.Stack.Hit
import HexEditor.Proofs.Stack.Run
import HexEditor.Proofs.Stack.Words
import HexEditor.Proofs.View.Aligned
import HexEditor.Proofs.View.Atomic
import HexEditor.Proofs.View.Bounds
import HexEditor.Proofs.View.Caret
import HexEditor.Proofs.View.Consistent
import HexEditor.Proofs.View.Disabled
import HexEditor.Proofs.View.Dragging
import HexEditor.Proofs.View.Effect
import HexEditor.Proofs.View.Events
import HexEditor.Proofs.View.Following
import HexEditor.Proofs.View.Goto
import HexEditor.Proofs.View.Landing
import HexEditor.Proofs.View.Overflow
import HexEditor.Proofs.View.Overwriting
import HexEditor.Proofs.View.Quiet
import HexEditor.Proofs.View.Resident
import HexEditor.Proofs.View.Run
import HexEditor.Proofs.View.Scrolling
import HexEditor.Proofs.View.Selected
import HexEditor.Proofs.View.Setup
import HexEditor.Proofs.View.Typing
import HexEditor.Proofs.View.Waiting
import HexEditor.Proofs.Viewport
import HexEditor.Proofs.Viewport.Reach
import HexEditor.Proofs.Word.Basic
import HexEditor.Proofs.Word.Frame
import HexEditor.Proofs.Word.Grid
import HexEditor.Proofs.Word.Hit
import HexEditor.Rational
import HexEditor.Selection
import HexEditor.Session
import HexEditor.Settings
import HexEditor.Source
import HexEditor.Stack
import HexEditor.Text
import HexEditor.Text.Quoted
import HexEditor.View
import HexEditor.Viewport
import HexEditor.Window.Basic
import HexEditor.Window.Focus
import HexEditor.Window.Frame
import HexEditor.Window.Gesture
import HexEditor.Window.GotoDialog
import HexEditor.Window.GridPanel
import HexEditor.Window.Keyboard
import HexEditor.Window.Menu
import HexEditor.Window.MenuBar
import HexEditor.Window.Pointer
import HexEditor.Window.Region
import HexEditor.Window.ScrollBar
import HexEditor.Window.Shape
import HexEditor.Window.Target
import HexEditor.Window.Zoom
