namespace CodeGraph

/-- The numbers that stand for a text. -/
abbrev Embedding := List Float

/-- Why embeddings do not make a table. -/
inductive RowFault where
  /-- There is no row, so there is no length along rows. -/
  | noRows
  /-- Rows of different lengths, and how many there are. -/
  | ragged (count : Nat)
deriving Repr, DecidableEq

def RowFault.message : RowFault → String
  | .noRows => "axis 1 is out of bounds for array of dimension 1"
  | .ragged count =>
    "setting an array element with a sequence. The requested array has an inhomogeneous shape " ++
      s!"after 1 dimensions. The detected shape was ({count},) + inhomogeneous part."

namespace Rows

/-- Embeddings as rows in single precision, all of one length. -/
def ofEmbeddings (embeddings : List Embedding) : Except RowFault (List (List Float32)) :=
  let rows := embeddings.map fun row => row.map Float.toFloat32
  match embeddings with
  | [] => .ok []
  | first :: rest =>
    if rest.all fun row => row.length == first.length then .ok rows
    else .error (.ragged embeddings.length)

def toEmbeddings (rows : List (List Float32)) : List Embedding :=
  rows.map fun row => row.map Float32.toFloat

/-- The most numbers that are added up in one run. -/
def runLength : Nat := 128

/-- Eight sums added up in pairs. -/
def sumOfLanes : List Float32 → Float32
  | [a, b, c, d, e, f, g, h] => ((a + b) + (c + d)) + ((e + f) + (g + h))
  | lanes => lanes.foldl (· + ·) (Float.toFloat32 0.0)

/-- Adds numbers to sums, eight at a time, and then the sums and what is left of the numbers. -/
def sumInLanes (lanes : List Float32) : List Float32 → Float32
  | a :: b :: c :: d :: e :: f :: g :: h :: rest =>
    sumInLanes (List.zipWith (· + ·) lanes [a, b, c, d, e, f, g, h]) rest
  | rest => rest.foldl (· + ·) (sumOfLanes lanes)

/-- The sum of numbers. Rounding depends on the order: fewer than eight numbers are added one after another,
more of them in eight lanes, and a long row in two halves of whole lanes. -/
def sum (row : List Float32) : Float32 :=
  if row.length < 8 then row.foldl (· + ·) (Float.toFloat32 0.0)
  else if row.length ≤ runLength then sumInLanes (row.take 8) (row.drop 8)
  else
    let half := row.length / 16 * 8
    sum (row.take half) + sum (row.drop half)
termination_by row.length
decreasing_by
  all_goals simp only [runLength, List.length_take, List.length_drop] at *; omega

/-- The length of a row as a vector. -/
def norm (row : List Float32) : Float32 :=
  Float32.sqrt (sum (row.map fun x => x * x))

/-- A row scaled to length one. A row of zeros stays as it is. -/
def normalizeRow (row : List Float32) : List Float32 :=
  let length := norm row
  if length == Float.toFloat32 0.0 then row else row.map (· / length)

/-- All rows scaled to length one. -/
def normalize (rows : List (List Float32)) : Except RowFault (List (List Float32)) :=
  if rows.isEmpty then .error .noRows else .ok (rows.map normalizeRow)

end Rows

end CodeGraph
