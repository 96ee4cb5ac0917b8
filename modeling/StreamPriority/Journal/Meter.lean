import StreamPriority.Journal.Basic

/-!
# The meter

A meter adds up ticks between two readings. A counter that was ticked once stays on the meter, at zero after a reading; one
that was never ticked is not on it.
-/

namespace StreamPriority

/-- What each counter stands at, if it is on the meter. -/
structure Meter where
  kept : Option Nat := none
  synthesized : Option Nat := none
  unknownStream : Option Nat := none
deriving DecidableEq

namespace Meter

/-- A meter with no counter on it. -/
def empty : Meter := {}

/-- What a counter stands at. -/
def get? (m : Meter) : Counter → Option Nat
  | .kept => m.kept
  | .synthesized => m.synthesized
  | .unknownStream => m.unknownStream

/-- Changes what every counter stands at. -/
def map (m : Meter) (f : Counter → Option Nat → Option Nat) : Meter where
  kept := f .kept m.kept
  synthesized := f .synthesized m.synthesized
  unknownStream := f .unknownStream m.unknownStream

/-- One more on a counter. -/
def tick (m : Meter) (c : Counter) : Meter :=
  m.map fun d v => if d = c then some (v.getD 0 + 1) else v

/-- Every counter on the meter back to zero. -/
def reset (m : Meter) : Meter :=
  m.map fun _ v => v.map fun _ => 0

/-- The counters above zero. -/
def reading (m : Meter) : List (Counter × Nat) :=
  Counter.all.filterMap fun c => (m.get? c).bind fun v => if v = 0 then none else some (c, v)

/-- Whether the counter of a name is on the meter and stands at a value. -/
def standsAt (m : Meter) (name : String) (value : Nat) : Bool :=
  Counter.all.any fun c => c.name == name && m.get? c == some value

@[simp] theorem get?_map (m : Meter) (f : Counter → Option Nat → Option Nat) (c : Counter) :
    (m.map f).get? c = f c (m.get? c) := by
  cases c <;> rfl

theorem get?_tick (m : Meter) (c d : Counter) :
    (m.tick c).get? d = if d = c then some ((m.get? d).getD 0 + 1) else m.get? d := by
  simp [tick]

theorem get?_reset (m : Meter) (c : Counter) : m.reset.get? c = (m.get? c).map fun _ => 0 := by
  simp [reset]

end Meter

end StreamPriority
