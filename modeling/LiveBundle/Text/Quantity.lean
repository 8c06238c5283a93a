import LiveBundle.Decimal.Binary64

/-!
# Sizes and durations for people
-/

namespace LiveBundle.Text

/-- A number of bytes, in units of 1024 with two decimals from one kilobyte on. -/
def formatSize (bytes : Nat) : String :=
  if 1048576 ≤ bytes then Decimal.fixed 2 (Float.ofNat bytes / 1048576) ++ " MB"
  else if 1024 ≤ bytes then Decimal.fixed 2 (Float.ofNat bytes / 1024) ++ " KB"
  else toString bytes ++ " B"

/-- A duration given in whole seconds and nanoseconds. -/
def formatDuration (seconds nanos : Nat) : String :=
  let secs := Float.ofNat seconds + Float.ofNat nanos / 1000000000
  if 60.0 ≤ secs then
    let minutes := (secs / 60.0).floor.toUInt64
    toString minutes.toNat ++ "m " ++ Decimal.fixed 2 (secs - minutes.toFloat * 60.0) ++ "s"
  else if 1.0 ≤ secs then Decimal.fixed 2 secs ++ "s"
  else Decimal.fixed 0 (secs * 1000.0) ++ "ms"

end LiveBundle.Text
