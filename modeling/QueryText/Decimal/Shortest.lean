/-!
# Shortest decimal

The real numbers that round to a given binary floating point number form a window around it. The
shortest decimal that reads back as the number is a point of the coarsest power-of-ten grid with a
point in that window; of two such points the nearer is taken, and the larger of two equally near.

The search starts at a grid coarser than the number and ends at the latest on the grid of the
binary fraction's last place, which holds the number itself. All arithmetic is on integers.
-/

set_option autoImplicit false

namespace QueryText.Decimal

/-- A window `lowest .. highest` around `centre`, all counted in the same fraction `1 / unit`. -/
structure Window where
  lowest : Nat
  centre : Nat
  highest : Nat
  unit : Nat
  closed : Bool

/-- The decimal `digits * 10 ^ exponent`. -/
structure Numeral where
  digits : Nat
  exponent : Int
  deriving DecidableEq

namespace Window

/-- The window of `mantissa * 2 ^ exponent`, in quarters of the last place. Below a power of two
the next number is only half as far away, which `narrowBelow` says. An even mantissa wins ties,
so its window has its ends. -/
def ofBinary (mantissa : Nat) (exponent : Int) (narrowBelow : Bool) : Window :=
  let scale := Nat.pow 2 (exponent - 2).toNat
  { lowest := (4 * mantissa - if narrowBelow then 1 else 2) * scale
    centre := 4 * mantissa * scale
    highest := (4 * mantissa + 2) * scale
    unit := Nat.pow 2 (2 - exponent).toNat
    closed := mantissa % 2 == 0 }

def scaled (window : Window) (factor : Nat) : Window :=
  { window with
    lowest := window.lowest * factor
    centre := window.centre * factor
    highest := window.highest * factor }

def contains (window : Window) (point : Nat) : Bool :=
  if window.closed then window.lowest ≤ point && point ≤ window.highest
  else window.lowest < point && point < window.highest

/-- The multiple of `step` in the window that is nearest to the centre. -/
def nearestMultiple? (window : Window) (step : Nat) : Option Nat :=
  let below := window.centre / step
  let holdsBelow := window.contains (below * step)
  let holdsAbove := window.contains ((below + 1) * step)
  let remainder := window.centre % step
  if holdsAbove && (!holdsBelow || step ≤ 2 * remainder) then some (below + 1)
  else if holdsBelow then some below
  else none

/-- The nearest point of the grid of multiples of `10 ^ exponent`. -/
def nearestOnGrid? (window : Window) (exponent : Int) : Option Nat :=
  (window.scaled (Nat.pow 10 (-exponent).toNat)).nearestMultiple?
    (window.unit * Nat.pow 10 exponent.toNat)

/-- Try the grids from `10 ^ exponent` downwards, `finer` of them after the first. -/
def shortestFrom (window : Window) (exponent : Int) : Nat → Numeral
  | 0 => ⟨(window.nearestOnGrid? exponent).getD 0, exponent⟩
  | finer + 1 =>
    match window.nearestOnGrid? exponent with
    | some digits => ⟨digits, exponent⟩
    | none => window.shortestFrom (exponent - 1) finer

def shortest (window : Window) : Numeral :=
  let coarsest := (Nat.toDigits 10 (window.centre / window.unit)).length
  window.shortestFrom coarsest (coarsest + window.unit.log2)

end Window

end QueryText.Decimal
