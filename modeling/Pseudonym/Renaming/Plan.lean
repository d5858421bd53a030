import Pseudonym.Symbol.Basic

/-!
# Rename plans

A plan gives a symbol a new name together with every symbol that has to follow.
-/

namespace Pseudonym

/-- A symbol and its new name. -/
structure Rename where
  symbol : SymbolId
  name : String
deriving DecidableEq, Repr, Inhabited

/-- A first rename and the renames that depend on it. -/
structure Plan where
  primary : SymbolId
  name : String
  cascade : List Rename := []
deriving DecidableEq, Repr, Inhabited

namespace Plan

/-- Keeps the first rename of each symbol. -/
def distinct : List Rename → List Rename
  | [] => []
  | r :: rest => r :: (distinct rest).filter (·.symbol ≠ r.symbol)

/-- The renames of a plan, the first one in front, each symbol once. -/
def entries (p : Plan) : List Rename := distinct (⟨p.primary, p.name⟩ :: p.cascade)

/-- The symbols of a plan. -/
def symbols (p : Plan) : List SymbolId := p.entries.map (·.symbol)

/-- Adds a dependent rename unless its symbol is in the plan. -/
def add (p : Plan) (r : Rename) : Plan :=
  if r.symbol = p.primary ∨ p.cascade.any (·.symbol = r.symbol) then p
  else { p with cascade := p.cascade ++ [r] }

end Plan

end Pseudonym
