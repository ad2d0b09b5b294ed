/-! Instants, durations and identifiers. Instants count microseconds from the
Unix epoch, the resolution at which the database keeps them. -/
namespace GenericAuth

abbrev Uuid := BitVec 128

abbrev OffsetDateTime := Int

/-- A length of time in microseconds. -/
abbrev TDuration := Int

namespace OffsetDateTime

/-- Whole seconds, rounded towards the past. -/
def unixTimestamp (instant : OffsetDateTime) : Int64 := Int64.ofInt (instant / 1000000)

/-- First and last representable instant: the years -9999 and 9999. -/
def least : OffsetDateTime := -377705116800 * 1000000
def greatest : OffsetDateTime := 253402300800 * 1000000 - 1

/-- Addition leaves the representable years only by panicking. -/
def checkedAdd (instant : OffsetDateTime) (duration : TDuration) : Option OffsetDateTime :=
  if least ≤ instant + duration ∧ instant + duration ≤ greatest then some (instant + duration)
  else none

end OffsetDateTime

namespace TDuration

/-- Durations hold a 64-bit number of seconds. -/
def ofSeconds (seconds : Int) : Option TDuration :=
  if -0x8000000000000000 ≤ seconds ∧ seconds < 0x8000000000000000 then some (seconds * 1000000) else none

def days (n : Int64) : Option TDuration := ofSeconds (n.toInt * 86400)
def hours (n : Int64) : Option TDuration := ofSeconds (n.toInt * 3600)

end TDuration

def hexDigit (n : Nat) : Char := if n < 10 then Char.ofNat (48 + n) else Char.ofNat (87 + n)

/-- Lower-case hexadecimal digits, most significant first. -/
def hexEncode {width : Nat} (bits : BitVec width) : String :=
  String.ofList ((List.range (width / 4)).reverse.map fun i => hexDigit (bits.toNat >>> (4 * i) % 16))

example : hexEncode (0x0fa3 : BitVec 16) = "0fa3" := by decide

end GenericAuth
