import Mathlib

/-! Addresses, clock values and errors of the node's network security module.
Instants and durations are counted in nanoseconds; `Instant::elapsed` is the
truncated difference `now - t`, as `duration_since` saturates at zero. -/

namespace Agentme

/-- `std::net::IpAddr`. An IPv4 address is kept as its four octets and an IPv6
address as its 128 bits. -/
inductive IpAddr where
  | v4 (a b c d : UInt8)
  | v6 (bits : BitVec 128)
  deriving DecidableEq, Repr

/-- The variants of the crate's `Error` that the security module builds; the
enum itself lives in `crate::error`, outside the source. -/
inductive Error where
  | network (msg : String)
  | config (msg : String)
  deriving DecidableEq, Repr

/-- A call on a connection tracker: the subnet trackers and the total tracker. -/
inductive TrackerCall where
  | add (ip : IpAddr)
  | remove (ip : IpAddr)

def TrackerCall.ip : TrackerCall → IpAddr
  | .add ip => ip
  | .remove ip => ip

def u32Max : Nat := 2 ^ 32 - 1

def u64Max : Nat := 2 ^ 64 - 1

/-- `i64::MAX`, which bounds the seconds of an `Instant` (a `Timespec`). -/
def i64Max : Nat := 2 ^ 63 - 1

def nanosPerSec : Nat := 1000000000

def durationFromSecs (secs : Nat) : Nat := secs * nanosPerSec

def durationFromMillis (millis : Nat) : Nat := millis * 1000000

/-- `Duration::MAX`: `u64::MAX` seconds and `999_999_999` nanoseconds. -/
def durationMax : Nat := u64Max * nanosPerSec + (nanosPerSec - 1)

/-- `Duration::saturating_mul`: the exact product, or `Duration::MAX` when it
does not fit. -/
def durationSaturatingMul (d : Nat) (rhs : Nat) : Nat := min (d * rhs) durationMax

def u64SaturatingPow (base exp : Nat) : Nat := min (base ^ exp) u64Max

def u32SaturatingAdd (a b : Nat) : Nat := min (a + b) u32Max

end Agentme
