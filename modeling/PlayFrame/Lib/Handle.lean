/-
# `PlayFrame.Lib.Handle` — references by recycled handles

Handles that are issued again after their holder is gone: descriptors, slots of a pool,
sequence numbers.  Every holder has a number of its own; `gen h` is the number of the
last holder of `h`, and `ref h g` says that something refers by `h` to the holder `g`.
References stay good as long as no handle is issued while something refers by it.
-/
import Mathlib.Logic.Function.Basic

namespace PlayFrame.Lib

variable {H G : Type} {gen : H → G} {ref ref' : H → G → Prop}

/-- Every reference is to the last holder of its handle. -/
def Current (gen : H → G) (ref : H → G → Prop) : Prop := ∀ h g, ref h g → gen h = g

namespace Current

theorem mono (hc : Current gen ref) (hr : ∀ h g, ref' h g → ref h g ∨ gen h = g) :
    Current gen ref' := by
  intro h g hg
  rcases hr h g hg with hold | hnew
  · exact hc h g hold
  · exact hnew

theorem reissue {gen' : H → G} (hc : Current gen ref)
    (hfree : ∀ h g, gen' h ≠ gen h → ¬ ref h g) : Current gen' ref := by
  intro h g hg
  by_cases he : gen' h = gen h
  · rw [he]
    exact hc h g hg
  · exact absurd hg (hfree h g he)

end Current

end PlayFrame.Lib
