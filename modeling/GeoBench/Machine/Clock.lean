/-!
# Time stamps

A run is named by the second that it began in. Its **stamp** is the date and the time of day, with
an underscore between them, so that stamps sort as the runs do and each is the name of one
directory.

## Main results

* `stamp_length` — a stamp has nineteen characters.
* `stamp_no_slash` — a stamp is a single step of a path.
-/

namespace GeoBench.Machine.Clock

/-- A **date** of the civil calendar. -/
structure Date where
  year : Nat
  month : Nat
  day : Nat
  deriving DecidableEq, Repr

/-- The days before the first of March of the year 0 and up to the first day of 1970. -/
abbrev daysToEpoch : Nat := 719468

/-- The days of 400 years, after which the calendar repeats. -/
abbrev daysInCycle : Nat := 146097

/-- The date some days after the first day of 1970. Years are taken to begin in March, so that the
leap day is the last one of its year. -/
def civil (days : Nat) : Date :=
  let cycle := (days + daysToEpoch) / daysInCycle
  let dayOfCycle := (days + daysToEpoch) % daysInCycle
  let yearOfCycle :=
    (dayOfCycle - dayOfCycle / 1460 + dayOfCycle / 36524 - dayOfCycle / 146096) / 365
  let dayOfYear := dayOfCycle - (365 * yearOfCycle + yearOfCycle / 4 - yearOfCycle / 100)
  let fromMarch := (5 * dayOfYear + 2) / 153
  let month := if fromMarch < 10 then fromMarch + 3 else fromMarch - 9
  { year := yearOfCycle + 400 * cycle + if month ≤ 2 then 1 else 0
    month
    day := dayOfYear - (153 * fromMarch + 2) / 5 + 1 }

/-- A number below one hundred in two digits. -/
def twoDigits (n : Nat) : List Char :=
  [Nat.digitChar (n / 10 % 10), Nat.digitChar (n % 10)]

/-- Two digits hold no slash. -/
theorem slash_notMem_twoDigits (n : Nat) : '/' ∉ twoDigits n := by
  have all : ∀ d < 10, '/' ≠ Nat.digitChar d := by decide
  simp only [twoDigits, List.mem_cons, List.not_mem_nil, or_false, not_or]
  exact ⟨all _ (Nat.mod_lt _ (by decide)), all _ (Nat.mod_lt _ (by decide))⟩

/-- The characters of the stamp for a date and the seconds since midnight. -/
def stampChars (date : Date) (time : Nat) : List Char :=
  twoDigits (date.year / 100) ++ twoDigits date.year ++ '-' :: twoDigits date.month ++
    '-' :: twoDigits date.day ++ '_' :: twoDigits (time / 3600) ++
    ':' :: twoDigits (time / 60 % 60) ++ ':' :: twoDigits (time % 60)

/-- The **stamp** of the time some seconds after the beginning of 1970. -/
def stamp (seconds : Nat) : String :=
  String.ofList (stampChars (civil (seconds / 86400)) (seconds % 86400))

/-- A stamp has nineteen characters. -/
theorem stamp_length (seconds : Nat) : (stamp seconds).length = 19 := by
  rw [stamp, String.length_ofList]
  rfl

/-- The characters of a stamp are no slashes. -/
theorem slash_notMem_stampChars (date : Date) (time : Nat) : '/' ∉ stampChars date time := by
  simp [stampChars, slash_notMem_twoDigits]

/-- A stamp is a single step of a path. -/
theorem stamp_no_slash (seconds : Nat) : '/' ∉ (stamp seconds).toList := by
  rw [stamp, String.toList_ofList]
  exact slash_notMem_stampChars _ _

end GeoBench.Machine.Clock
