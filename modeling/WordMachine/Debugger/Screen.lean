import WordMachine.Debugger.Basic

/-!
# The debugger's screen

The screen is a grid of styled characters, put together from panes with borders. On the left are
the listing, the registers and the status, on the right the memory, the events and the keys.
-/

namespace WordMachine

inductive Colour where
  /-- The colour of the terminal itself. -/
  | plain
  | red | green | yellow | magenta | cyan | white | darkGray
  deriving DecidableEq, Repr

def Colour.name : Colour → String
  | .plain => "Reset"
  | .red => "Red"
  | .green => "Green"
  | .yellow => "Yellow"
  | .magenta => "Magenta"
  | .cyan => "Cyan"
  | .white => "White"
  | .darkGray => "DarkGray"

structure Style where
  colour : Colour := .plain
  bold : Bool := false
  deriving DecidableEq, Repr

structure Cell where
  char : Char
  style : Style
  deriving DecidableEq, Repr

namespace Cell

/-- A text in one style. -/
def ofText (style : Style) (s : String) : List Cell := s.toList.map fun c => ⟨c, style⟩

def text (cells : List Cell) : String := String.ofList (cells.map Cell.char)

/-- The styles of a row as runs of equal ones with their lengths. -/
def styleRuns (cells : List Cell) : List (Nat × Style) :=
  cells.foldr
    (fun cell runs =>
      match runs with
      | (n, style) :: rest => if style = cell.style then (n + 1, style) :: rest
        else (1, cell.style) :: runs
      | [] => [(1, cell.style)])
    []

end Cell

/-- A row inside a pane: its text and the style of the rest of the row. -/
structure PaneRow where
  cells : List Cell
  rest : Style
  deriving DecidableEq, Repr

namespace PaneRow

/-- A row in one style from end to end. -/
def ofText (style : Style) (s : String) : PaneRow := ⟨Cell.ofText style s, style⟩

/-- A row cut or filled to `width` cells. -/
def fit (width : Nat) (row : PaneRow) : List Cell :=
  row.cells.take width ++ List.replicate (width - row.cells.length) ⟨' ', row.rest⟩

end PaneRow

/-- A bordered area. The title lies over the upper border from its second cell on. -/
structure Pane where
  title : String
  border : Style
  /-- The style of the cells below the last row. -/
  inside : Style
  rows : List PaneRow

namespace Pane

/-- The upper edge of a pane `width` cells wide inside. -/
def topEdge (p : Pane) (width : Nat) : List Cell :=
  let title := p.title.toList.take width
  let edge := title ++ List.replicate (width - title.length) '─'
  ('┌' :: edge ++ ['┐']).map (⟨·, p.border⟩)

def bottomEdge (p : Pane) (width : Nat) : List Cell :=
  ('└' :: List.replicate width '─' ++ ['┘']).map (⟨·, p.border⟩)

/-- The rows of a pane of the given size, border included. What does not fit inside is cut. -/
def draw (p : Pane) (width height : Nat) : List (List Cell) :=
  let rows := p.rows.take (height - 2)
  let rows := rows ++ List.replicate (height - 2 - rows.length) ⟨[], p.inside⟩
  let side : Cell := ⟨'│', p.border⟩
  p.topEdge (width - 2) :: rows.map (fun row => side :: row.fit (width - 2) ++ [side])
    ++ [p.bottomEdge (width - 2)]

end Pane

namespace Debugger

/-! ## Panes -/

/-- The style of what the machine is about to run. -/
def currentStyle : Style := { colour := .yellow, bold := true }

def listingRow (d : Debugger) (line : Line) : PaneRow :=
  let isBreakpoint := d.breakpoints.contains line.addr
  let style : Style :=
    if d.isCurrent line then currentStyle
    else if isBreakpoint then { colour := .red }
    else {}
  let mark := if isBreakpoint then "●" else " "
  let arrow := if d.isCurrent line then "▶ " else "  "
  .ofText style s!"{mark} {arrow}{Text.Hex.word line.addr}: {line.text}"

def listingPane (d : Debugger) (height : Nat) : Pane where
  title := " Disassembly "
  border := { colour := .cyan }
  inside := {}
  rows := (d.linesAround (height - 2)).map d.listingRow

/-- Registers with a task of their own stand out, zeroes stand back. -/
def registerStyle (r : Register) (value : UInt16) : Style :=
  match r with
  | .ip => { colour := .yellow }
  | .acc => { colour := .cyan }
  | .sp | .fp => { colour := .magenta }
  | _ => if value = 0 then { colour := .darkGray } else { colour := .white }

def registerRow (registers : List (Register × UInt16)) : PaneRow where
  cells := registers.flatMap fun (r, value) =>
    Cell.ofText {} s!"{r.name}: " ++
      Cell.ofText (registerStyle r value) s!"{Text.Hex.word value}  "
  rest := {}

def stateRow (d : Debugger) : PaneRow where
  cells :=
    Cell.ofText {} "Cycles: " ++ Cell.ofText { colour := .cyan } (toString d.machine.cycles) ++
      Cell.ofText {} "   State: " ++
      Cell.ofText { colour := if d.machine.isRunning then .green else .red }
        d.machine.state.name
  rest := {}

def registersPane (d : Debugger) : Pane where
  title := " Registers "
  border := { colour := .green }
  inside := {}
  rows :=
    let registers := d.machine.registers.toList
    [registerRow (registers.take 4), registerRow ((registers.drop 4).take 4),
      registerRow (registers.drop 8), d.stateRow]

def statusPane (d : Debugger) : Pane where
  title := " Status "
  border := { colour := .white }
  inside := { colour := .white }
  rows := [.ofText { colour := .white } d.notice.text]

/-- Row number `row` of the memory view. -/
def memoryRow (d : Debugger) (row : Nat) : PaneRow :=
  let m := d.machine.memory
  let base := row * rowBytes
  let bytes := (m.bytes.extract base (base + rowBytes)).toList
  let holds (r : Register) : Bool :=
    let addr := (d.machine.get r).toNat
    base ≤ addr && addr < base + rowBytes
  let style : Style :=
    if holds .ip then currentStyle
    else if holds .sp then { colour := .magenta }
    else if bytes.any (· ≠ 0) then { colour := .white }
    else { colour := .darkGray }
  .ofText style s!"{Text.Hex.number base}: {Text.Hex.spaced bytes}"

/-- The memory rows that a pane with `visible` rows shows. -/
def memoryRows (d : Debugger) (visible : Nat) : List Nat :=
  let start := min d.scroll d.rowCount
  let stop := min (start + visible) d.rowCount
  (List.range (stop - start)).map (start + ·)

def memoryPane (d : Debugger) (height : Nat) : Pane where
  title := " Memory "
  border := { colour := .magenta }
  inside := {}
  rows := (d.memoryRows (height - 2)).map d.memoryRow

def eventStyle : Event → Style
  | .executed .. => {}
  | .ignored .. => { colour := .yellow }
  | .faulted .. => { colour := .red }

/-- The newest event comes first. -/
def eventsPane (d : Debugger) (height : Nat) : Pane where
  title := " Events "
  border := {}
  inside := {}
  rows := (d.watched.seen.toList.reverse.take (height - 2)).map fun e =>
    .ofText (eventStyle e) e.text

def helpPane : Pane where
  title := " Help "
  border := { colour := .darkGray }
  inside := { colour := .darkGray }
  rows :=
    [.ofText { colour := .darkGray } "s: Step  r: Run  p: Pause  b: Breakpoint  c: Resume",
     .ofText { colour := .darkGray } "x: Reset  t: Stack  ↑↓/PgUp/PgDn: Scroll  q: Quit"]

/-! ## The screen -/

def registersHeight : Nat := 6
def statusHeight : Nat := 3
def eventsHeight : Nat := 10
def helpHeight : Nat := 4

/-- The rows of a screen of the given size. The left column takes fifty-five parts of a hundred,
and the uppermost pane of a column what the others leave. -/
def draw (d : Debugger) (width height : Nat) : List (List Cell) :=
  let leftWidth := width * 55 / 100
  let rightWidth := width - leftWidth
  let listingHeight := height - registersHeight - statusHeight
  let memoryHeight := height - eventsHeight - helpHeight
  let left := (d.listingPane listingHeight).draw leftWidth listingHeight ++
    d.registersPane.draw leftWidth registersHeight ++ d.statusPane.draw leftWidth statusHeight
  let right := (d.memoryPane memoryHeight).draw rightWidth memoryHeight ++
    (d.eventsPane eventsHeight).draw rightWidth eventsHeight ++
    helpPane.draw rightWidth helpHeight
  List.zipWith (· ++ ·) left right

end Debugger

end WordMachine
