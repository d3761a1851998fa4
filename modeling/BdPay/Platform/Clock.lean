import BdPay.Data.Calendar
import BdPay.Data.Text

namespace BdPay.Platform

open Data Text Calendar

/-! Instants and their canonical wire form.

Every clock of the platform hands out timezone-aware datetimes, so an instant is
all a datetime is: two of them are equal, and are compared, by the instant alone.
-/

/-- A timezone-aware datetime: microseconds since 1 January of year 1, UTC, up to
the last microsecond of year 9999. -/
structure DateTime where
  micros : Nat
  inRange : micros < 3652059 * 86400000000
deriving DecidableEq

namespace DateTime

theorem zero_inRange : 0 < 3652059 * 86400000000 := by decide

theorem one_inRange : 1 < 3652059 * 86400000000 := by decide

theorem year1997_inRange : 63000000000000000 < 3652059 * 86400000000 := by decide

theorem year2026_inRange : 739616 * 86400000000 < 3652059 * 86400000000 := by decide

instance : LE DateTime := ⟨fun left right => left.micros ≤ right.micros⟩

instance : DecidableLE DateTime := fun left right => Nat.decLe left.micros right.micros

variable (instant : DateTime)

def millis : Nat := instant.micros / 1000

def dayNumber : Nat := instant.micros / 86400000000

/-- `instant + timedelta(days=days)`; past year 9999 there is no such datetime. -/
def addDays? (days : Nat) : Option DateTime :=
  let micros := instant.micros + days * 86400000000
  if fits : micros < 3652059 * 86400000000 then some ⟨micros, fits⟩ else none

/-- `instant + timedelta(...)` for a span that is not negative. -/
def add? (span : Nat) : Option DateTime :=
  if fits : instant.micros + span < 3652059 * 86400000000 then some ⟨instant.micros + span, fits⟩ else none

/-- `(later - earlier).total_seconds() >= seconds`. -/
def elapsedAtLeast (earlier later : DateTime) (seconds : Int) : Bool :=
  decide (seconds * 1000000 ≤ (later.micros : Int) - earlier.micros)

/-- The time of day, to the second. -/
def timeText : List Char :=
  let clock := instant.micros / 1000000 % 86400
  zeroPadded 2 (clock / 3600) ++ ':' :: (zeroPadded 2 (clock / 60 % 60) ++ ':' :: zeroPadded 2 (clock % 60))

/-- `strftime("%Y-%m-%dT%H:%M:%SZ")`, in which the year is not padded. -/
def nowIso : List Char :=
  let date := civil instant.dayNumber
  digits date.year ++ '-' :: (zeroPadded 2 date.month ++ '-' :: (zeroPadded 2 date.day ++
    'T' :: (instant.timeText ++ ['Z'])))

/-- `isoformat()`: the microseconds are written only when there are any. -/
def isoFormat : List Char :=
  let date := civil instant.dayNumber
  let fraction := instant.micros % 1000000
  zeroPadded 4 date.year ++ '-' :: (zeroPadded 2 date.month ++ '-' :: (zeroPadded 2 date.day ++ 'T' ::
    (instant.timeText ++ ((if fraction = 0 then [] else '.' :: zeroPadded 6 fraction) ++ "+00:00".toList))))

/-- UTC ISO-8601 with millisecond precision and a `Z` suffix. -/
def isoMillis : List Char :=
  let date := civil instant.dayNumber
  let clock := instant.millis % 86400000
  zeroPadded 4 date.year ++ '-' :: (zeroPadded 2 date.month ++ '-' :: (zeroPadded 2 date.day ++
    'T' :: (zeroPadded 2 (clock / 3600000) ++ ':' :: (zeroPadded 2 (clock / 60000 % 60) ++
    ':' :: (zeroPadded 2 (clock / 1000 % 60) ++ '.' :: (zeroPadded 3 (clock % 1000) ++ ['Z']))))))

theorem dayNumber_eq (instant : DateTime) : instant.dayNumber = instant.millis / 86400000 := by
  simp only [dayNumber, millis]
  omega

/-- The wire form forgets the microseconds and nothing else. -/
theorem isoMillis_eq_iff {left right : DateTime} : left.isoMillis = right.isoMillis ↔ left.millis = right.millis := by
  constructor
  · intro same
    -- Each group of digits ends at the punctuation behind it.
    have group : ∀ {width first second char left right}, char.isDigit = false →
        zeroPadded width first ++ char :: left = zeroPadded width second ++ char :: right →
        zeroPadded width first = zeroPadded width second ∧ left = right := fun mark same =>
      (append_inj_of_digits (fun _ => isDigit_of_mem_zeroPadded) (fun _ => isDigit_of_mem_zeroPadded) (by simp [mark])
        (by simp [mark]) same).imp id fun rest => (List.cons.inj rest).2
    simp only [isoMillis] at same
    obtain ⟨year, same⟩ := group rfl same
    obtain ⟨month, same⟩ := group rfl same
    obtain ⟨day, same⟩ := group rfl same
    obtain ⟨hour, same⟩ := group rfl same
    obtain ⟨minute, same⟩ := group rfl same
    obtain ⟨second, same⟩ := group rfl same
    obtain ⟨milli, -⟩ := group rfl same
    have date : civil left.dayNumber = civil right.dayNumber := by
      have year := zeroPadded_injective 4 year
      have month := zeroPadded_injective 2 month
      have day := zeroPadded_injective 2 day
      cases first : civil left.dayNumber
      cases second : civil right.dayNumber
      simp_all
    have days := civil_injective date
    rw [dayNumber_eq, dayNumber_eq] at days
    have hour := zeroPadded_injective 2 hour
    have minute := zeroPadded_injective 2 minute
    have second := zeroPadded_injective 2 second
    have milli := zeroPadded_injective 3 milli
    omega
  · intro same
    simp only [isoMillis, dayNumber_eq, same]

theorem mem_isoMillis {instant : DateTime} (member : char ∈ instant.isoMillis) :
    char.isDigit = true ∨ char ∈ ['-', 'T', ':', '.', 'Z'] := by
  simp only [isoMillis, List.mem_append, List.mem_cons, List.not_mem_nil, or_false] at member
  have digits : ∀ {width value}, char ∈ zeroPadded width value → char.isDigit = true :=
    isDigit_of_mem_zeroPadded
  rcases member with h | rfl | h | rfl | h | rfl | h | rfl | h | rfl | h | rfl | h | rfl <;>
    first | exact .inl (digits h) | exact .inr (by simp)

end DateTime

end BdPay.Platform
