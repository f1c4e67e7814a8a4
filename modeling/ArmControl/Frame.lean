import ArmControl.Check

/-!
# Frames and tensors

A `Frame` is a four by four homogeneous transform and a `Tensor` a three by three matrix, both
stored column by column. `Frame.isRigid` decides whether a frame is a rotation with a translation,
and `Tensor.isSymmetric` whether a tensor equals its transpose, both within `tolerance`.
-/

namespace ArmControl

/-- One number for each of the seven joints. -/
abbrev Joints := Vector Float 7

/-- Three translational numbers and three rotational ones. -/
abbrev Twist := Vector Float 6

/-- The position of the third joint and the sign of the fourth. -/
abbrev Elbow := Vector Float 2

/-- A point or a size in space. -/
abbrev Point := Vector Float 3

/-- A homogeneous transform, column by column. -/
abbrev Frame := Vector Float 16

/-- A three by three matrix, column by column. -/
abbrev Tensor := Vector Float 9

/-- How far a rotation may be from orthogonal, and a tensor from symmetric. -/
def tolerance : Float := 1e-5

/-- The greatest magnitude, taken from left to right with `acc` kept when `acc ≥ x`. Comparisons
with a NaN are false, so a NaN is replaced by the element after it. -/
def peak : List Float → Float
  | [] => 0
  | x :: rest => rest.foldl (fun acc y => if acc ≥ y.abs then acc else y.abs) x.abs

namespace Tensor

/-- The entry in row `i` and column `j`. -/
def entry (m : Tensor) (i j : Fin 3) : Float := m[3 * j.val + i.val]

/-- All positions, column by column. -/
def positions : List (Fin 3 × Fin 3) :=
  [(0, 0), (1, 0), (2, 0), (0, 1), (1, 1), (2, 1), (0, 2), (1, 2), (2, 2)]

/-- Whether the tensor differs from its transpose by less than the tolerance. -/
def isSymmetric (m : Tensor) : Bool :=
  peak (positions.map fun (i, j) => m.entry i j - m.entry j i) < tolerance

/-- The determinant, expanded along the first row. -/
def determinant (m : Tensor) : Float :=
  let e := m.entry
  e 0 0 * (e 1 1 * e 2 2 - e 2 1 * e 1 2) - e 0 1 * (e 1 0 * e 2 2 - e 2 0 * e 1 2) +
    e 0 2 * (e 1 0 * e 2 1 - e 2 0 * e 1 1)

/-- The entry in row `i` and column `j` of the transpose times the matrix, less the identity. -/
def gramDefect (m : Tensor) (i j : Fin 3) : Float :=
  m.entry 0 i * m.entry 0 j + m.entry 1 i * m.entry 1 j + m.entry 2 i * m.entry 2 j -
    (if i = j then 1 else 0)

/-- How far the columns are from orthonormal. -/
def orthogonalityError (m : Tensor) : Float :=
  peak (positions.map fun (i, j) => m.gramDefect i j)

end Tensor

namespace Frame

/-- The frame that moves nothing. -/
def identity : Frame := #v[1, 0, 0, 0, 0, 1, 0, 0, 0, 0, 1, 0, 0, 0, 0, 1]

/-- The upper left three by three block. -/
def rotation (t : Frame) : Tensor := #v[t[0], t[1], t[2], t[4], t[5], t[6], t[8], t[9], t[10]]

/-- The upper three numbers of the last column. -/
def translation (t : Frame) : Point := #v[t[12], t[13], t[14]]

/-- The frame with its translation increased by some distance along each axis. -/
def moved (t : Frame) (distance : Point) : Frame :=
  ((t.set 12 (t[12] + distance[0])).set 13 (t[13] + distance[1])).set 14 (t[14] + distance[2])

/-- Whether the last row is that of a homogeneous transform, exactly. -/
def hasUnitRow (t : Frame) : Bool := t[3] == 0 && t[7] == 0 && t[11] == 0 && t[15] == 1

/-- Whether the frame is a rotation with a translation. -/
def isRigid (t : Frame) : Bool :=
  t.toList.all Float.isFinite && t.hasUnitRow && t.rotation.orthogonalityError < tolerance &&
    (t.rotation.determinant - 1).abs < tolerance

end Frame

/-- Accepts rigid frames; a number that is not finite is reported as such. -/
def checkFrame (field : String) (t : Frame) : Except ValueError Unit := do
  checkFinite field t.toList
  if t.isRigid then .ok () else .error (.invalidTransform field)

end ArmControl
