import WorkflowSynthesis.Settings.Basic

/-! Places of nodes on the canvas. -/

namespace WorkflowSynthesis

structure Position where
  x : Int
  y : Int
  deriving DecidableEq

/-- The place of a cell of the grid: stages go to the right, lanes down. -/
def Grid.position (grid : Grid) (stage : Nat) (lane : Int) : Position where
  x := grid.origin.1.toInt + stage * grid.horizontalSpacing.toInt
  y := grid.origin.2.toInt + lane * grid.verticalSpacing.toInt

end WorkflowSynthesis
