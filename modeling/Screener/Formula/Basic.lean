import Screener.Token.Basic

namespace Screener

abbrev Formula := List Token

namespace Formula

def equation (formula : Formula) : Text := Text.join " " (formula.map Token.text)

def kinds (formula : Formula) : List Token.Kind := formula.map Token.kind

def comparisonIndex (formula : Formula) : Option Nat := formula.findIdx? Token.isComparison

def hasComparison (formula : Formula) : Bool := formula.any Token.isComparison

def hasComparisonBesides (formula : Formula) (index : Int) : Bool :=
  formula.zipIdx.any fun (token, i) => token.isComparison && (i : Int) != index

def inRange (formula : Formula) (index : Int) : Bool := 0 ≤ index && index < formula.length

def at? (formula : Formula) (index : Int) : Option Token :=
  if 0 ≤ index then formula[index.toNat]? else none

def fromEitherEnd? (formula : Formula) (index : Int) : Option Token :=
  formula.at? (if index < 0 then index + formula.length else index)

/-- A bound of a slice as a position: from the end when it is negative, and no farther than the ends. -/
def slicePosition (formula : Formula) (bound : Int) : Nat :=
  min (if bound < 0 then bound + formula.length else bound).toNat formula.length

def slice (formula : Formula) (start stop : Option Int) : Formula :=
  let first := (start.map formula.slicePosition).getD 0
  let last := (stop.map formula.slicePosition).getD formula.length
  (formula.take last).drop first

def append (formula : Formula) (token : Token) : Formula := formula ++ [token]

def replace? (formula : Formula) (index : Int) (token : Token) : Option Formula :=
  if formula.inRange index then some (formula.set index.toNat token) else none

def remove? (formula : Formula) (index : Int) : Option Formula :=
  if formula.inRange index then some (formula.eraseIdx index.toNat) else none

@[simp] theorem equation_nil : equation [] = [] := rfl

@[simp] theorem equation_singleton (token : Token) : equation [token] = token.text := rfl

theorem equation_cons_cons (first next : Token) (rest : Formula) :
    equation (first :: next :: rest) = first.text ++ " " ++ equation (next :: rest) := rfl

theorem inRange_iff {formula : Formula} {index : Int} :
    formula.inRange index ↔ 0 ≤ index ∧ index < formula.length := by
  simp [inRange]

end Formula

end Screener
