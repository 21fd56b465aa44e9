/-!
# Binding generation

The counter by which guest code tells whether the places where it found constants are still
right. It only ever advances, and goes around after 2^64 steps.
-/

namespace SharedBindings

structure Generation where
  count : UInt64
deriving DecidableEq

namespace Generation

def start : Generation :=
  ⟨0⟩

instance : Inhabited Generation := ⟨start⟩

def bump (generation : Generation) : Generation :=
  ⟨generation.count + 1⟩

def bumpIf (changed : Bool) (generation : Generation) : Generation :=
  if changed then generation.bump else generation

def describe (generation : Generation) : String :=
  "SharedGeneration(" ++ toString generation.count ++ ")"

theorem count_bumpIf (changed : Bool) (generation : Generation) :
    (generation.bumpIf changed).count =
      if changed then generation.count + 1 else generation.count := by
  cases changed <;> rfl

end Generation

end SharedBindings
