/-!
# Histograms with three significant digits

Samples are whole numbers from 1 to 3,600,000,000. Values below 2048 are kept exactly; above, a
cell spans `2 ^ k` values, so that every value keeps at least three significant digits. Values that
no cell reaches are recorded as the greatest trackable value.

A histogram is the list of its nonempty cells in ascending order, each with the number of samples
in it, and the greatest value recorded.
-/

namespace TraceReplay

/-- Counts of samples by cell. -/
structure Histogram where
  /-- The lowest value of each nonempty cell with its count, ascending. -/
  cells : List (Nat × Nat) := []
  /-- The greatest value recorded, zero if there is none. -/
  greatest : Nat := 0
deriving DecidableEq, Repr

namespace Histogram

/-- The greatest value that is tracked, one hour in microseconds. -/
def greatestTrackable : Nat := 3600000000

/-- The first value that lies in no cell. -/
def cellsEnd : Nat := 1 <<< 32

/-- How many values share the cell of `v`. -/
def cellSize (v : Nat) : Nat := 1 <<< (max v.log2 10 - 10)

/-- The lowest value in the cell of `v`. -/
def cellLow (v : Nat) : Nat := v / cellSize v * cellSize v

/-- The greatest value in the cell of `v`. -/
def cellHigh (v : Nat) : Nat := cellLow v + cellSize v - 1

/-- The middle of the cell of `v`. -/
def cellMiddle (v : Nat) : Nat := cellLow v + cellSize v / 2

/-- Add to the count of a cell in an ascending list. -/
def addToCell (low count : Nat) : List (Nat × Nat) → List (Nat × Nat)
  | [] => [(low, count)]
  | (low', count') :: rest =>
    if low < low' then (low, count) :: (low', count') :: rest
    else if low = low' then (low', count' + count) :: rest
    else (low', count') :: addToCell low count rest

/-- How many samples cells hold. -/
def sizeOfCells : List (Nat × Nat) → Nat
  | [] => 0
  | (_, count) :: rest => count + sizeOfCells rest

/-- How many samples there are. -/
def size (h : Histogram) : Nat := sizeOfCells h.cells

def isEmpty (h : Histogram) : Bool := h.size == 0

/-- Record a value so many times. -/
def record (h : Histogram) (value : Nat) (times : Nat := 1) : Histogram :=
  let kept := if value < cellsEnd then value else greatestTrackable
  if times = 0 then h
  else ⟨addToCell (cellLow kept) times h.cells, max h.greatest kept⟩

/-- The greatest value that the cell of the greatest sample stands for. -/
def maximum (h : Histogram) : Nat := if h.greatest = 0 then 0 else cellHigh h.greatest

/-- The mean of the samples, each taken at the middle of its cell. -/
def mean (h : Histogram) : Float :=
  let total := (UInt64.ofNat h.size).toFloat
  if h.isEmpty then 0
  else h.cells.foldl (fun sum (low, count) =>
    sum + (UInt64.ofNat (cellMiddle low)).toFloat * (UInt64.ofNat count).toFloat / total) 0

/-- The first cell at which at least `wanted` samples are reached, by its greatest value. -/
def reach (wanted : Nat) : (soFar : Nat) → List (Nat × Nat) → Nat
  | _, [] => 0
  | soFar, (low, count) :: rest =>
    if wanted ≤ soFar + count then cellHigh low else reach wanted (soFar + count) rest

/-- The value that at least `percent` of the samples do not exceed. -/
def valueAt (h : Histogram) (percent : Float) : Nat :=
  let wanted := (percent / 100 * (UInt64.ofNat h.size).toFloat).ceil.toUInt64.toNat
  reach (max wanted 1) 0 h.cells

theorem sizeOfCells_addToCell (low count : Nat) (cells : List (Nat × Nat)) :
    sizeOfCells (addToCell low count cells) = sizeOfCells cells + count := by
  induction cells with
  | nil => simp [addToCell, sizeOfCells]
  | cons e rest ih =>
    obtain ⟨low', count'⟩ := e
    rw [addToCell]
    split
    · simp only [sizeOfCells]
      omega
    · split
      · simp only [sizeOfCells]
        omega
      · simp only [sizeOfCells, ih]
        omega

/-- Every recorded sample counts, whatever its value. -/
@[simp] theorem size_record (h : Histogram) (value times : Nat) :
    (h.record value times).size = h.size + times := by
  rw [record]
  split
  · rename_i h0
    simp [size, h0]
  · exact sizeOfCells_addToCell _ _ _

end Histogram

end TraceReplay
