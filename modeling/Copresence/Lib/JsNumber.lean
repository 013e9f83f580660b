import Mathlib.Data.Rat.Defs

/-! What a number of the language may be. -/
namespace Copresence

/-- A number of the language. -/
inductive JsNumber where
  | finite (value : ℚ)
  | infinity (negative : Bool)
  | nan
deriving DecidableEq, Repr

end Copresence
