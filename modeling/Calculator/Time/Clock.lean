/-!
The two clocks: one on the wall, in seconds since the start of 1970, and one that only runs forward,
in nanoseconds, by which commands are timed. Each look at the running clock is one reading later.
-/

namespace Calculator.Time

structure Clock where
  /-- The time on the wall after so many looks at the running clock. -/
  wall : Nat → Int
  /-- What the running clock shows at each look. -/
  running : Nat → Nat
  looks : Nat := 0

namespace Clock

/-- A wall clock that stands still, and a running clock that starts at zero and goes forward by `tick`
at every look. -/
def still (seconds : Int) (tick : Nat) : Clock where
  wall _ := seconds
  running look := look * tick

/-- The time on the wall now. -/
def now (clock : Clock) : Int := clock.wall clock.looks

/-- Looks at the running clock. -/
def look (clock : Clock) : Nat × Clock :=
  (clock.running clock.looks, { clock with looks := clock.looks + 1 })

/-- Sets the wall clock, which stands still from now on. -/
def setWall (clock : Clock) (seconds : Int) : Clock := { clock with wall := fun _ => seconds }

/-- Lets the running clock go forward by `tick` at each look from the next one on. -/
def setTick (clock : Clock) (tick : Nat) : Clock :=
  { clock with running := fun look =>
      if look ≤ clock.looks then clock.running look
      else clock.running clock.looks + (look - clock.looks) * tick }

/-- A running clock never goes back. -/
def Forward (clock : Clock) : Prop :=
  ∀ first second, first ≤ second → clock.running first ≤ clock.running second

theorem forward_still (seconds : Int) (tick : Nat) : (still seconds tick).Forward :=
  fun _ _ h => Nat.mul_le_mul_right tick h

end Clock

end Calculator.Time
