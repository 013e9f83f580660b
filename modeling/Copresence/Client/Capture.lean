import Copresence.Client.Wire
import Copresence.Lib.JsNumber
import Mathlib.Algebra.Order.Field.Rat

/-! What a page reads from its document and window, and the coordinates it
makes of a pointer position. -/
namespace Copresence

/-- The arithmetic of the language on its numbers, which rounds and overflows. -/
structure JsArithmetic where
  add : JsNumber → JsNumber → JsNumber
  div : JsNumber → JsNumber → JsNumber

/-- The document and the window, as far as they are read. -/
structure BrowserReading where
  scrollWidth : Nat
  scrollHeight : Nat
  devicePixelRatio : ℚ
  scrollX : ℚ
  scrollY : ℚ
  visibilityState : VisibilityState
deriving DecidableEq, Repr

def readViewportMetadata (reading : BrowserReading) : ViewportInfo where
  docWidth := reading.scrollWidth
  docHeight := reading.scrollHeight
  dpr := if reading.devicePixelRatio = 0 then 1 else reading.devicePixelRatio

def readScrollOffset (reading : BrowserReading) : ℚ × ℚ := (reading.scrollX, reading.scrollY)

def clamp01 : JsNumber → ℚ
  | .finite value => min 1 (max 0 value)
  | _ => 0

def nonNegativeFinite : JsNumber → ℚ
  | .finite value => max 0 value
  | _ => 0

def finiteOr (value : JsNumber) (fallback : ℚ) : ℚ :=
  match value with
  | .finite value => value
  | _ => fallback

/-- From the viewport to the document, for any input. -/
def toDocumentSpace (arithmetic : JsArithmetic)
    (viewportX viewportY documentWidth scrollY : JsNumber) : ℚ × ℚ :=
  let safeWidth :=
    match documentWidth with
    | .finite width => if 0 < width then width else 0
    | _ => 0
  let x := if 0 < safeWidth then clamp01 (arithmetic.div viewportX (.finite safeWidth)) else 0
  let y := nonNegativeFinite (arithmetic.add viewportY (.finite (finiteOr scrollY 0)))
  (x, y)

theorem clamp01_range (value : JsNumber) : 0 ≤ clamp01 value ∧ clamp01 value ≤ 1 := by
  cases value with
  | finite value => exact ⟨le_min zero_le_one (le_max_left _ _), min_le_left _ _⟩
  | infinity negative => exact ⟨le_refl 0, zero_le_one⟩
  | nan => exact ⟨le_refl 0, zero_le_one⟩

theorem nonNegativeFinite_nonneg (value : JsNumber) : 0 ≤ nonNegativeFinite value := by
  cases value with
  | finite value => exact le_max_left _ _
  | infinity negative => exact le_refl 0
  | nan => exact le_refl 0

/-- However the arithmetic rounds, the result is a place in the document. -/
theorem toDocumentSpace_range (arithmetic : JsArithmetic)
    (viewportX viewportY documentWidth scrollY : JsNumber) :
    (0 ≤ (toDocumentSpace arithmetic viewportX viewportY documentWidth scrollY).1 ∧
        (toDocumentSpace arithmetic viewportX viewportY documentWidth scrollY).1 ≤ 1) ∧
      0 ≤ (toDocumentSpace arithmetic viewportX viewportY documentWidth scrollY).2 := by
  have fraction : ∀ width : ℚ,
      0 ≤ (if 0 < width then clamp01 (arithmetic.div viewportX (.finite width)) else 0) ∧
        (if 0 < width then clamp01 (arithmetic.div viewportX (.finite width)) else 0) ≤ 1 := by
    intro width
    split
    · exact clamp01_range _
    · exact ⟨le_refl 0, zero_le_one⟩
  exact ⟨fraction _, nonNegativeFinite_nonneg _⟩

end Copresence
