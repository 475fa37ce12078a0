import HexEditor.Window.Gesture

/-!
# The program

Opens the window of a command line, prints its first frame and ends. The frame is printed as text:
what the grid's painting shows, at the column where it is painted, under the title and the status
line. A wrong command line ends the program with a report.
-/

namespace HexEditor

def Shape.placed? : Shape → Option (Int × Int × String)
  | text x baseline content _ => some (x, baseline, content)
  | _ => none

/-- A line with a text put at a column, or behind what is there already. -/
def putAt (line : String) (column : Nat) (text : String) : String :=
  line ++ String.ofList (List.replicate (column - line.length) ' ') ++ text

namespace Window

def textLines (charWidth : Nat) (painting : List Shape) : List String :=
  let texts := painting.filterMap Shape.placed?
  let baselines := (texts.map fun (_, baseline, _) => baseline).eraseDups
  baselines.map fun baseline =>
    let row := (texts.filter fun (_, b, _) => b = baseline).mergeSort fun t u => t.1 ≤ u.1
    row.foldl (fun line (x, _, text) => putAt line (x.toNat / charWidth) text) ""

def transcript (w : Window) : List String :=
  let status := "  ".intercalate (w.session.sourceName.toList ++ [w.session.message])
  Session.title :: status :: (w.painting.map (textLines w.zoom.font.charWidth)).getD [placeholder]

end Window

/-- The files that can be read, under the paths that were given for them. -/
def loadFiles (paths : List String) : IO Folder := do
  let files ← paths.filterMapM fun (path : String) => do
    match ← (IO.FS.readBinFile path).toBaseIO with
    | .ok content => return some (path, content.data)
    | .error _ => return none
  return ⟨files⟩

end HexEditor

open HexEditor in
def main (arguments : List String) : IO UInt32 := do
  match Arguments.parse arguments with
  | .error e =>
    (← IO.getStderr).putStr e.report
    return ArgumentError.exitCode.toUInt32
  | .ok arguments =>
    let folder ← loadFiles (arguments.file.toList ++ arguments.config.toList)
    let (width, height) := Session.windowSize
    let window :=
      Window.launch (← IO.monoMsNow) (Session.start folder arguments) folder width height
    window.transcript.forM IO.println
    return 0
