/-!
# Frame clocks

A clock counts frames and measures the time since it was started and since its
last tick. Time is an instant in nanoseconds; a clock that is turned back shows
that no time has passed.
-/

namespace ShaderEffects

/-- The time of one frame. -/
structure FrameTime where
  /-- Nanoseconds since the clock was started. -/
  elapsed : Nat
  /-- Nanoseconds since the tick before. -/
  delta : Nat
  /-- The frames before this one. -/
  frame : Nat
deriving DecidableEq, Repr

/-- A number of nanoseconds in seconds, as the sum of whole seconds and of a part
of a second, each rounded to single precision. -/
def seconds (nanoseconds : Nat) : Float32 :=
  Float32.ofNat (nanoseconds / 1000000000)
    + Float32.ofNat (nanoseconds % 1000000000) / 1000000000

/-- A clock that counts frames. -/
structure FrameClock where
  start : Int := 0
  last : Int := 0
  frames : Nat := 0
deriving DecidableEq, Repr

namespace FrameClock

/-- A clock that is started at an instant. -/
def startingAt (start : Int) : FrameClock := ⟨start, start, 0⟩

/-- Counts a frame at an instant. -/
def tick (clock : FrameClock) (now : Int) : FrameClock × FrameTime :=
  ({ clock with last := now, frames := clock.frames + 1 },
    ⟨(now - clock.start).toNat, (now - clock.last).toNat, clock.frames⟩)

end FrameClock

end ShaderEffects
