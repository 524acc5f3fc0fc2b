/-!
# The response timer

How long the response of a roaming procedure is awaited.
-/

namespace SessionControl.Roaming

/-- The setting of the response timer. -/
structure ResponseTimer where
  /-- The timer is used at all. -/
  enabled : Bool := false
  seconds : UInt64 := 0
  deriving DecidableEq, Repr, Inhabited

namespace ResponseTimer

/-- The timer that runs for a number of seconds; it is not used if there are none. -/
def ofSeconds (seconds : UInt64) : ResponseTimer :=
  { enabled := seconds != 0, seconds }

/-- The name under which the timer is started and stopped. -/
def name : String := "SMF_TIMER_S8_T3_RESPONSE"

end ResponseTimer

end SessionControl.Roaming
