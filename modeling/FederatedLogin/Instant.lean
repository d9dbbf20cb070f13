/-! # Instants

Points in time and the spans between them, exact to the nanosecond.
-/

namespace FederatedLogin

structure Instant where
  nanoseconds : Int
  deriving DecidableEq

namespace Instant

def perSecond : Int := 1000000000

def secondsPerDay : Int := 86400

def addDays (t : Instant) (days : Int) : Instant :=
  ⟨t.nanoseconds + days * secondsPerDay * perSecond⟩

/-- The whole seconds from an earlier instant to a later one. A part of a second is cut off. -/
def secondsSince (earlier later : Instant) : Int :=
  (later.nanoseconds - earlier.nanoseconds).tdiv perSecond

end Instant

end FederatedLogin
