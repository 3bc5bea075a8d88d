/-!
# Lengths of time

A `Duration` is a whole number of nanoseconds, at most `2 ^ 64 - 1` seconds and 999999999
nanoseconds. Instants are plain numbers of nanoseconds, counted from the start of a run.

* `Duration.add?`, `Duration.sub`, `Duration.scale`: addition that may overflow, subtraction that
  stops at zero, and a multiple that stops at the longest duration;
* `elapsed`: the time from one instant to another;
* `Duration.text`: the shortest text of a duration, in the largest unit of which it holds one.
-/

namespace SigningKeys

/-- An instant, in nanoseconds since the start of the run. -/
abbrev Instant := Nat

/-- The longest duration, in nanoseconds. -/
def maxNanos : Nat := 18446744073709551615 * 1000000000 + 999999999

/-- A length of time. -/
structure Duration where
  nanos : Nat
  nanos_le : nanos ≤ maxNanos
deriving DecidableEq

namespace Duration

/-- A duration of `n` nanoseconds, if there is one that long. -/
def ofNanos? (n : Nat) : Option Duration :=
  if h : n ≤ maxNanos then some ⟨n, h⟩ else none

/-- The duration closest to `n` nanoseconds: the longest one when `n` is too large. -/
def ofNanosCapped (n : Nat) : Duration := ⟨min n maxNanos, Nat.min_le_right _ _⟩

/-- No time at all. -/
def zero : Duration := ⟨0, Nat.zero_le _⟩

instance : Inhabited Duration := ⟨zero⟩

/-- `n` seconds, for a count of at most `2 ^ 64 - 1`. -/
def ofSeconds (n : Nat) : Duration := ofNanosCapped (n * 1000000000)

/-- `n` milliseconds, for a count of at most `2 ^ 64 - 1`. -/
def ofMillis (n : Nat) : Duration := ofNanosCapped (n * 1000000)

/-- Whole milliseconds of a duration. -/
def millis (d : Duration) : Nat := d.nanos / 1000000

/-- Whether a duration is empty. -/
def isZero (d : Duration) : Bool := d.nanos == 0

/-- The sum of two durations, if it is not too long. -/
def add? (a b : Duration) : Option Duration := ofNanos? (a.nanos + b.nanos)

/-- `a` without `b`, zero when `b` is the longer one. -/
def sub (a b : Duration) : Duration :=
  ⟨a.nanos - b.nanos, Nat.le_trans (Nat.sub_le _ _) a.nanos_le⟩

/-- `n` times a duration, capped at the longest one. -/
def scale (d : Duration) (n : Nat) : Duration := ofNanosCapped (d.nanos * n)

@[simp] theorem nanos_zero : zero.nanos = 0 := rfl

@[simp] theorem nanos_sub (a b : Duration) : (a.sub b).nanos = a.nanos - b.nanos := rfl

@[simp] theorem nanos_scale (d : Duration) (n : Nat) :
    (d.scale n).nanos = min (d.nanos * n) maxNanos := rfl

@[simp] theorem nanos_ofNanosCapped (n : Nat) : (ofNanosCapped n).nanos = min n maxNanos := rfl

theorem second_pos : 0 < (ofSeconds 1).nanos := by decide

theorem minute_pos : 0 < (ofSeconds 60).nanos := by decide

theorem ext_nanos {a b : Duration} (h : a.nanos = b.nanos) : a = b := by
  cases a; cases b; cases h; rfl

theorem ofNanos?_eq_some {n : Nat} {d : Duration} : ofNanos? n = some d ↔ d.nanos = n := by
  unfold ofNanos?
  constructor
  · intro h
    split at h
    · cases h; rfl
    · cases h
  · rintro rfl
    rw [dif_pos d.nanos_le]

theorem add?_eq_some {a b d : Duration} : a.add? b = some d ↔ d.nanos = a.nanos + b.nanos :=
  ofNanos?_eq_some

/-- A digit as a character. -/
def digit (n : Nat) : Char := Char.ofNat (48 + n % 10)

/-- The decimals of `rest / 10 ^ width` without trailing zeros. -/
def decimals (rest width : Nat) : List Char :=
  let digits := (List.range width).map fun i => digit (rest / Nat.pow 10 (width - 1 - i))
  (digits.reverse.dropWhile (· == '0')).reverse

/-- A whole part, the decimals after it if there are any, and a unit. -/
def inUnit (whole rest width : Nat) (unit : String) : String :=
  match decimals rest width with
  | [] => toString whole ++ unit
  | ds => toString whole ++ "." ++ String.ofList ds ++ unit

/-- **The text of a duration**: seconds, milliseconds, microseconds or nanoseconds, the first of
them of which it holds at least one, with no more decimals than it needs. -/
def text (d : Duration) : String :=
  if 1000000000 ≤ d.nanos then inUnit (d.nanos / 1000000000) (d.nanos % 1000000000) 9 "s"
  else if 1000000 ≤ d.nanos then inUnit (d.nanos / 1000000) (d.nanos % 1000000) 6 "ms"
  else if 1000 ≤ d.nanos then inUnit (d.nanos / 1000) (d.nanos % 1000) 3 "µs"
  else inUnit d.nanos 0 0 "ns"

end Duration

/-- The time from `earlier` to `now`, none when `earlier` lies ahead. The count is exact: it is not
capped at the longest duration. -/
def elapsed (now earlier : Instant) : Nat := now - earlier

end SigningKeys
