/-!
# The curve of Ed25519

The twisted Edwards curve `-x² + y² = 1 + d x² y²` over the integers modulo `2^255 - 19`, with
points in extended coordinates. Addition is complete: one formula serves all points, doubling
included.
-/

namespace FederatedAccess.Ed25519

/-- The size of the field, `2^255 - 19`. -/
abbrev fieldSize : Nat :=
  57896044618658097711785492504343953926634992332820282019728792003956564819949

/-- An element of the field. -/
abbrev Coordinate := Fin fieldSize

/-- The order of the base point, a prime. -/
def groupOrder : Nat :=
  7237005577332262213973186563042994240857116359379907606001950938285454250989

def curveD : Coordinate :=
  37095705934669439343138083508754565189542113879843219016388785533085940283555

def rootMinusOne : Coordinate :=
  19681161376707505956807079304988542015446066515923890162744021073123829784752

/-- The lowest `count` bits of a number, the highest first. -/
def bits : Nat → Nat → List Bool
  | 0, _ => []
  | count + 1, n => n.testBit count :: bits count n

/-- A power of a field element with an exponent below `2^256`. -/
def power (x : Coordinate) (exponent : Nat) : Coordinate :=
  (bits 256 exponent).foldl (fun acc bit => if bit then acc * acc * x else acc * acc) 1

/-- The inverse of a field element other than zero. -/
def inverse (x : Coordinate) : Coordinate :=
  power x (fieldSize - 2)

/-- A root of `u / v` with an even representative, if there is one. -/
def rootOfRatio? (u v : Coordinate) : Option Coordinate :=
  let candidate := u * v * v * v * power (u * v * v * v * v * v * v * v) ((fieldSize - 5) / 8)
  let check := v * candidate * candidate
  let root :=
    if check = u then some candidate
    else if check = -u then some (candidate * rootMinusOne)
    else none
  root.map fun r => if r.val % 2 = 1 then -r else r

/-! ## Points -/

/-- A point in extended coordinates: `x / z` and `y / z` are its coordinates and `t = x y / z`. -/
structure Point where
  /-- The first coordinate times `z`. -/
  x : Coordinate
  /-- The second coordinate times `z`. -/
  y : Coordinate
  /-- The common denominator. -/
  z : Coordinate
  /-- The product of the coordinates times `z`. -/
  t : Coordinate

namespace Point

def zero : Point := ⟨0, 1, 1, 0⟩

def base : Point where
  x := 15112221349535400772501151409588531511454012693041857206046113283949847762202
  y := 46316835694926478169428394003475163141307993866256225615783033603165251855960
  z := 1
  t := 46827403850823179245072216630277197565144205554125654976674165829533817101731

def add (p q : Point) : Point :=
  let a := (p.y - p.x) * (q.y - q.x)
  let b := (p.y + p.x) * (q.y + q.x)
  let c := p.t * (curveD + curveD) * q.t
  let d := (p.z + p.z) * q.z
  let e := b - a
  let f := d - c
  let g := d + c
  let h := b + a
  ⟨e * f, g * h, f * g, e * h⟩

def negate (p : Point) : Point :=
  ⟨-p.x, p.y, p.z, -p.t⟩

/-- The multiple of a point by a number below `2^256`. -/
def multiple (n : Nat) (p : Point) : Point :=
  (bits 256 n).foldl (fun acc bit =>
    let doubled := acc.add acc
    if bit then doubled.add p else doubled) zero

def isZero (p : Point) : Bool :=
  p.x = 0 && p.y = p.z

/-- Whether the point is one of the eight whose eightfold is neutral. -/
def hasSmallOrder (p : Point) : Bool :=
  (multiple 8 p).isZero

end Point

/-! ## Octets -/

/-- The number of a sequence of octets, the lowest first. -/
def ofLittleEndian (octets : List UInt8) : Nat :=
  octets.foldr (fun b n => b.toNat + 256 * n) 0

/-- The lowest `count` octets of a number, the lowest first. -/
def littleEndian : Nat → Nat → List UInt8
  | 0, _ => []
  | count + 1, n => UInt8.ofNat n :: littleEndian count (n / 256)

theorem length_littleEndian (count n : Nat) : (littleEndian count n).length = count := by
  induction count generalizing n with
  | zero => rfl
  | succ count ih => rw [littleEndian, List.length_cons, ih]

/-- The value of the highest bit of 32 octets, which holds a parity: `2^255`. -/
def parityUnit : Nat := Nat.pow 2 255

/-- The 32 octets of a point: its second coordinate and the parity of its first. -/
def Point.compress (p : Point) : List UInt8 :=
  let z := inverse p.z
  let x := p.x * z
  let y := p.y * z
  littleEndian 32 (y.val + (x.val % 2) * parityUnit)

theorem Point.length_compress (p : Point) : p.compress.length = 32 :=
  length_littleEndian 32 _

/-- The point of 32 octets. The second coordinate is taken modulo the field size, and a parity bit
on a first coordinate of zero has no effect. -/
def decompress (octets : List UInt8) : Option Point :=
  if octets.length ≠ 32 then none
  else
    let n := ofLittleEndian octets
    let y : Coordinate := Fin.ofNat fieldSize (n % parityUnit)
    let odd := parityUnit ≤ n
    (rootOfRatio? (y * y - 1) (curveD * y * y + 1)).map fun root =>
      let x := if odd then -root else root
      ⟨x, y, 1, x * y⟩

/-- Only 32 octets are a point. -/
theorem length_of_decompress {octets : List UInt8} (h : (decompress octets).isSome = true) :
    octets.length = 32 := by
  by_cases hlength : octets.length = 32
  · exact hlength
  · simp [decompress, hlength] at h

end FederatedAccess.Ed25519
