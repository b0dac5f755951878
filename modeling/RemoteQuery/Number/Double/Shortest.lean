import RemoteQuery.Number.Double

/-!
# RemoteQuery.Number.Double.Shortest

The decimal text of a double: the fewest digits that read back as the same
number, of those the nearest to it.

The reals that round to `m · 2 ^ q` form an interval whose ends belong to it
exactly when `m` is even.  `shortest` walks from coarse decimal grids to finer
ones and takes the first grid that has a point in the interval.
-/

namespace RemoteQuery

/-- A positive decimal value `digits * 10 ^ exponent`. -/
structure Scientific where
  digits : Nat
  exponent : Int
deriving DecidableEq

namespace Double

/-- The interval of reals that round to a double, in units of a quarter of its last place. -/
structure Interval where
  low : Nat
  value : Nat
  high : Nat
  /-- Whether the two ends belong to the interval. -/
  closed : Bool

/-- The interval around `m · 2 ^ q`, in units of `2 ^ (q - 2)`; below a power of two the next
double is only half as far away. -/
def interval (m : Nat) (q : Int) : Interval where
  low := if m = Nat.pow 2 52 ∧ minExponent < q then 4 * m - 1 else 4 * m - 2
  value := 4 * m
  high := 4 * m + 2
  closed := m % 2 = 0

/-- The point of the grid `10 ^ g` that lies in the interval around `m · 2 ^ q` and is nearest to
it, a tie going up; `none` if no neighbour of the value on the grid lies in the interval. -/
def gridPoint? (m : Nat) (q g : Int) : Option Nat :=
  let i := interval m q
  -- A multiple `d` of the grid compares with `x` quarter units as `d * a` with `x * b`.
  let a := Nat.pow 10 g.toNat * Nat.pow 2 (2 - q).toNat
  let b := Nat.pow 10 (-g).toNat * Nat.pow 2 (q - 2).toNat
  let inside := fun d : Nat =>
    if i.closed then decide (i.low * b ≤ d * a ∧ d * a ≤ i.high * b)
    else decide (i.low * b < d * a ∧ d * a < i.high * b)
  let below := i.value * b / a
  let above := below + 1
  match inside below && below != 0, inside above with
  | true, true => if i.value * b - below * a < above * a - i.value * b then some below else some above
  | true, false => some below
  | false, true => some above
  | false, false => none

/-- A power of ten above the value `m · 2 ^ q`: no coarser grid has a point in its interval. -/
def coarsest (m : Nat) (q : Int) : Int :=
  ((m.log2 : Int) + 1 + q) * 30103 / 100000 + 1

/-- The fewest digits that read back as `m · 2 ^ q`, for a positive `m`. -/
def shortest (m : Nat) (q : Int) : Scientific :=
  let found := (List.range 20).findSome? fun i : Nat =>
    let g := coarsest m q - i
    (gridPoint? m q g).map fun d => Scientific.mk d g
  found.getD ⟨m * Nat.pow 2 q.toNat, 0⟩

/-! ## layout -/

/-- The decimal value written out without an exponent. -/
def positional (v : Scientific) : String :=
  let ds := Nat.toDigits 10 v.digits
  if 0 ≤ v.exponent then String.ofList (ds ++ List.replicate v.exponent.toNat '0')
  else
    let places := (-v.exponent).toNat
    let padded := List.replicate (places + 1 - ds.length) '0' ++ ds
    String.ofList (padded.take (padded.length - places)) ++ "." ++
      String.ofList (padded.drop (padded.length - places))

/-- One digit before the point, the others after it, and the exponent. -/
def exponential (v : Scientific) : String :=
  let ds := Nat.toDigits 10 v.digits
  let mantissa := match ds with
    | d :: r :: rest => String.ofList (d :: '.' :: r :: rest)
    | _ => String.ofList ds
  mantissa ++ "e" ++ toString (v.exponent + ds.length - 1)

/-- The minus sign of a negative value. -/
def signText (negative : Bool) : String :=
  if negative then "-" else ""

/-- The text of a double literal: positional, with at least one digit after the point, for zero
and from `1e-4` up to below `1e16`, and with an exponent otherwise. -/
def text : Double → String
  | nan => "NaN"
  | infinity negative => signText negative ++ "inf"
  | finite negative m q =>
    if m = 0 then signText negative ++ "0.0"
    else
      let v := shortest m q
      let leading := v.exponent + (Nat.toDigits 10 v.digits).length - 1
      signText negative ++
        (if -4 ≤ leading ∧ leading < 16 then
          positional v ++ (if 0 ≤ v.exponent then ".0" else "")
        else exponential v)

/-- The text of a double without any exponent. -/
def plainText : Double → String
  | nan => "NaN"
  | infinity negative => signText negative ++ "inf"
  | finite negative m q =>
    signText negative ++ (if m = 0 then "0" else positional (shortest m q))

end Double

end RemoteQuery
