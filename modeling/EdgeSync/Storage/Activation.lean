import EdgeSync.Storage.Backend
import Mathlib.Tactic.IntervalCases

/-!
# `GetObjectsToActivate` and the order of RFC 3339 timestamps

An inactive object carries the time it is to be activated, an RFC 3339 timestamp set by the
service that stored it.  `GetObjectsToActivate` selects the objects to activate with a query
that compares that text with the current time formatted by `time.Now().Format(time.RFC3339)`,
in the zone of the server, by the query's `$lte` on strings: the order of their characters,
not of the instants they denote.

A timestamp is modelled by its fields (`Timestamp`), with its text (`Timestamp.text`, and
`Timestamp.rfc3339` for the layout without fraction that `time.Format` prints) and the
instant it denotes (`Timestamp.instant`, in nanoseconds since the epoch, by the proleptic
Gregorian calendar).

The two orders differ.  An activation time written at another offset than the server's can
name an earlier instant with a later text, and a fraction of a second sorts before the `Z`
that ends a text without one, so `GetObjectsToActivate` can leave out an object whose time has
come and return one whose time has not (`getObjectsToActivate_orders_text`).

They agree where the texts are alike.  The main results are

* `Timestamp.daysFromCivil_lt`: the count of days is increasing on the dates of the calendar,
  from one lemma per step of the calendar (a day, a month, a year);
* `MongoStorage.lteText_dateTime`: the texts of two dates and times of day compare as the
  numbers `YYYYMMDDhhmmss` they write;
* `MongoStorage.lteText_rfc3339`: an activation time with whole seconds, at the offset of the
  server, compares with the current time as its instant does, whatever the fraction of the
  current time that `time.Format` drops;
* `MongoStorage.getObjectsToActivate_at_offset`: on a store whose activation times are so
  written, `GetObjectsToActivate` returns the objects whose activation instant has come.
-/

namespace EdgeSync

/-! ### RFC 3339 timestamps -/

/-- Whether `year` is a leap year of the Gregorian calendar. -/
def isLeapYear (year : Nat) : Bool :=
  year % 4 == 0 && (year % 100 != 0 || year % 400 == 0)

/-- The number of days of a month. -/
def daysInMonth (year month : Nat) : Nat :=
  if month = 2 then (if isLeapYear year then 29 else 28)
  else if month = 4 ∨ month = 6 ∨ month = 9 ∨ month = 11 then 30 else 31

/-- An RFC 3339 timestamp: a date with a four-digit year, a time of day, the digits of its
fraction of a second as written (at most the nine that `time.Parse` reads), and its offset
from UTC in minutes.  The fields stay in the ranges of RFC 3339, §5.6. -/
structure Timestamp where
  year : Nat
  month : Nat
  day : Nat
  hour : Nat
  minute : Nat
  second : Nat
  fraction : List (Fin 10)
  offset : Int
  valid : year < 10000 ∧ 0 < month ∧ month ≤ 12 ∧ 0 < day ∧ day ≤ daysInMonth year month ∧
    hour < 24 ∧ minute < 60 ∧ second < 60 ∧ fraction.length ≤ 9 ∧ offset.natAbs < 24 * 60

namespace Timestamp

/-- The decimal digit of `n` in the units. -/
def digit (n : Nat) : Char := Char.ofNat (n % 10 + 48)

/-- The last `width` decimal digits of `n`, zero-padded. -/
def decimal : Nat → Nat → List Char
  | 0, _ => []
  | width + 1, n => decimal width (n / 10) ++ [digit n]

/-- `YYYY-MM-DDTHH:MM:SS`. -/
def dateTime (t : Timestamp) : List Char :=
  decimal 4 t.year ++ '-' :: decimal 2 t.month ++ '-' :: decimal 2 t.day ++
    'T' :: decimal 2 t.hour ++ ':' :: decimal 2 t.minute ++ ':' :: decimal 2 t.second

/-- The offset: `Z` for UTC, `+hh:mm` or `-hh:mm` otherwise, as `time.Format` prints it. -/
def zone (offset : Int) : List Char :=
  if offset = 0 then ['Z']
  else (if offset < 0 then '-' else '+') :: decimal 2 (offset.natAbs / 60) ++
    ':' :: decimal 2 (offset.natAbs % 60)

/-- The text of the timestamp, with its fraction when it has digits. -/
def text (t : Timestamp) : String :=
  String.mk (t.dateTime ++
    (if t.fraction = [] then [] else '.' :: t.fraction.map fun d => digit d) ++ zone t.offset)

/-- The text `time.Format` prints with the layout `time.RFC3339`, which has no fraction. -/
def rfc3339 (t : Timestamp) : String := String.mk (t.dateTime ++ zone t.offset)

/-- The date and the time of day as one number, the digits of `YYYYMMDDhhmmss`. -/
def dateTimeNumber (t : Timestamp) : Nat :=
  ((((t.year * 100 + t.month) * 100 + t.day) * 100 + t.hour) * 100 + t.minute) * 100 + t.second

/-- Days from 1970-01-01 to a date of the proleptic Gregorian calendar, by the algorithm
`days_from_civil` (eras of 400 years, years that start in March). -/
def daysFromCivil (year month day : Nat) : Int :=
  let y : Int := if month ≤ 2 then (year : Int) - 1 else year
  let era := y / 400
  let yoe := y - era * 400
  let doy := (153 * (((month : Int) + 9) % 12) + 2) / 5 + day - 1
  let doe := yoe * 365 + yoe / 4 - yoe / 100 + doy
  era * 146097 + doe - 719468

example : daysFromCivil 1970 1 1 = 0 ∧ daysFromCivil 2000 3 1 = 11017 := by decide

/-- The nanoseconds of a fraction of a second written with the digits `fraction`. -/
def nanos (fraction : List (Fin 10)) : Nat :=
  (fraction.map Fin.val ++ List.replicate (9 - fraction.length) 0).foldl
    (fun acc d => 10 * acc + d) 0

/-- The instant a timestamp denotes, in nanoseconds since 1970-01-01T00:00:00Z. -/
def instant (t : Timestamp) : Int :=
  (((daysFromCivil t.year t.month t.day * 24 + t.hour) * 60 + t.minute - t.offset) * 60 +
    t.second) * 1000000000 + nanos t.fraction

end Timestamp

namespace MongoStorage

/-! ### `GetObjectsToActivate` -/

/-- Modelled from the spec: `$lte` on two strings, the order of their characters, first
difference first (the byte order of UTF-8 is the order of the code points). -/
def lteText : List Char → List Char → Bool
  | [], _ => true
  | _ :: _, [] => false
  | c :: cs, d :: ds => c.toNat < d.toNat || (c == d && lteText cs ds)

/-- `GetObjectsToActivate`, where `currentTime` is the text `time.Now().Format(time.RFC3339)`
of the current time in the server's zone: the metadata and the status of the inactive objects
not ready or ready to send whose activation time is set and is at most `currentTime` by the
query's `$lte`. -/
def getObjectsToActivate (s : MongoStorage) (currentTime : String) :
    Except SyncServiceError (List MetaData × List String) :=
  let result := s.objects.filter fun o =>
    (o.status == NotReadyToSend || o.status == ReadyToSend) && o.metaData.inactive &&
      o.metaData.activationTime != "" && lteText o.metaData.activationTime.data currentTime.data
  .ok (result.map Object.metaData, result.map Object.status)

/-- A server in UTC at 09:00:00 on 2024-01-01, and two inactive objects ready to send: `early`
is to be activated at 10:00 at the offset +02:00, an hour before, and `late` half a second
later than the current time.  `GetObjectsToActivate` returns `late` and not `early`. -/
theorem getObjectsToActivate_orders_text :
    let now : Timestamp := ⟨2024, 1, 1, 9, 0, 0, [], 0, by decide⟩
    let early : Timestamp := ⟨2024, 1, 1, 10, 0, 0, [], 120, by decide⟩
    let late : Timestamp := ⟨2024, 1, 1, 9, 0, 0, [5], 0, by decide⟩
    let object (objectID : String) (t : Timestamp) : Object :=
      { id := "org:type:" ++ objectID,
        metaData :=
          { objectID := objectID, objectType := "type", destOrgID := "org", destID := "",
            destType := "", expiration := "", inactive := true, activationTime := t.text,
            noData := false, metaOnly := false, expectedConsumers := 1, autoDelete := false,
            deleted := false, instanceID := 0, objectSize := 0 },
        status := ReadyToSend, remainingConsumers := 1, remainingReceivers := 1,
        destinations := [], lastUpdate := 1 }
    let s : MongoStorage :=
      { MongoStorage.empty with objects := [object "early" early, object "late" late] }
    early.instant ≤ now.instant ∧ now.instant < late.instant ∧
      (s.getObjectsToActivate now.rfc3339).map (·.1.map MetaData.objectID) = .ok ["late"] := by
  decide

end MongoStorage

namespace Timestamp

/-! ### The calendar is increasing -/

/-- `daysFromCivil` in closed form: the days of the years before the one that holds the date,
years starting in March, and the days of that year before it. -/
theorem daysFromCivil_eq (y m d : Nat) :
    daysFromCivil y m d =
      let year : Int := if m ≤ 2 then (y : Int) - 1 else y
      365 * year + year / 4 - year / 100 + year / 400 + (153 * (((m : Int) + 9) % 12) + 2) / 5 +
        d - 719469 := by
  simp only [daysFromCivil]; omega

theorem daysFromCivil_add_day (y m d : Nat) :
    daysFromCivil y m d = daysFromCivil y m 0 + d := by
  simp only [daysFromCivil_eq]; omega

/-- The leap-year rule in the closed form: from March 1 of `y - 1` to March 1 of `y` come the
`337` days from March to January and the days of February of `y`. -/
theorem daysFromCivil_march_year (y : Nat) :
    365 * (y : Int) + (y : Int) / 4 - (y : Int) / 100 + (y : Int) / 400 =
      365 * ((y : Int) - 1) + ((y : Int) - 1) / 4 - ((y : Int) - 1) / 100 +
        ((y : Int) - 1) / 400 + 337 + daysInMonth y 2 := by
  simp only [daysInMonth, isLeapYear, reduceIte]
  split <;> rename_i h <;>
    simp only [Bool.and_eq_true, Bool.or_eq_true, beq_iff_eq, bne_iff_ne, ne_eq] at h <;> omega

theorem daysFromCivil_next_month (y m : Nat) (h1 : 1 ≤ m) (h2 : m ≤ 11) :
    daysFromCivil y (m + 1) 0 = daysFromCivil y m 0 + daysInMonth y m := by
  by_cases hm : m = 2
  · subst hm
    simp only [daysFromCivil_eq, Nat.reduceAdd, Nat.reduceLeDiff, reduceIte]
    rw [daysFromCivil_march_year y]
    omega
  · interval_cases m <;> simp only [daysFromCivil_eq, daysInMonth, Nat.reduceAdd,
      Nat.reduceLeDiff, Nat.reduceEqDiff, reduceIte, or_self, or_false, false_or, or_true,
      true_or] <;> omega

theorem daysFromCivil_next_year (y : Nat) :
    daysFromCivil (y + 1) 1 0 = daysFromCivil y 12 0 + 31 := by
  simp only [daysFromCivil, Nat.cast_add, Nat.cast_one, add_sub_cancel_right, Nat.reduceLeDiff,
    reduceIte]
  omega

theorem daysInMonth_le (y m : Nat) : daysInMonth y m ≤ 31 := by
  unfold daysInMonth; split_ifs <;> omega

/-- A month starts after every day of the months before it. -/
theorem daysFromCivil_month_lt (y : Nat) {m m' : Nat} (h1 : 1 ≤ m) (h : m < m') (h2 : m' ≤ 12) :
    daysFromCivil y m 0 + daysInMonth y m ≤ daysFromCivil y m' 0 := by
  induction m', h using Nat.le_induction with
  | base => rw [daysFromCivil_next_month y m h1 (by omega)]
  | succ k hk ih =>
    have := ih (by omega)
    rw [daysFromCivil_next_month y k (by omega) (by omega)]; omega

theorem daysFromCivil_le_end (y : Nat) {m : Nat} (h1 : 1 ≤ m) (h2 : m ≤ 12) :
    daysFromCivil y m 0 + daysInMonth y m ≤ daysFromCivil y 12 0 + 31 := by
  rcases Nat.lt_or_ge m 12 with h | h
  · have := daysFromCivil_month_lt y h1 h le_rfl; omega
  · obtain rfl : m = 12 := by omega
    simp [daysInMonth]

theorem daysFromCivil_start_le (y : Nat) {m : Nat} (h1 : 1 ≤ m) (h2 : m ≤ 12) :
    daysFromCivil y 1 0 ≤ daysFromCivil y m 0 := by
  rcases Nat.lt_or_ge 1 m with h | h
  · have := daysFromCivil_month_lt y le_rfl h h2; omega
  · obtain rfl : m = 1 := by omega
    exact le_rfl

/-- A year starts after every day of the years before it. -/
theorem daysFromCivil_year_lt {y y' : Nat} (h : y < y') :
    daysFromCivil y 12 0 + 31 ≤ daysFromCivil y' 1 0 := by
  induction y', h using Nat.le_induction with
  | base => rw [daysFromCivil_next_year]
  | succ k hk ih =>
    have := daysFromCivil_le_end k (m := 1) le_rfl (by omega)
    rw [daysFromCivil_next_year]; omega

/-- **`daysFromCivil` is increasing** on the dates of the calendar, in the order of the year,
then the month, then the day. -/
theorem daysFromCivil_lt {y m d y' m' d' : Nat}
    (hv : 1 ≤ m ∧ m ≤ 12 ∧ 1 ≤ d ∧ d ≤ daysInMonth y m)
    (hv' : 1 ≤ m' ∧ m' ≤ 12 ∧ 1 ≤ d' ∧ d' ≤ daysInMonth y' m')
    (h : (y * 100 + m) * 100 + d < (y' * 100 + m') * 100 + d') :
    daysFromCivil y m d < daysFromCivil y' m' d' := by
  obtain ⟨hm1, hm2, -, hd⟩ := hv
  obtain ⟨hm1', hm2', hd1', hd'⟩ := hv'
  have := daysInMonth_le y m
  have := daysInMonth_le y' m'
  rw [daysFromCivil_add_day y m d, daysFromCivil_add_day y' m' d']
  obtain h | ⟨rfl, h | ⟨rfl, h⟩⟩ : y < y' ∨ y = y' ∧ (m < m' ∨ m = m' ∧ d < d') := by omega
  · have := daysFromCivil_le_end y hm1 hm2
    have := daysFromCivil_year_lt h
    have := daysFromCivil_start_le y' hm1' hm2'
    omega
  · have := daysFromCivil_month_lt y hm1 h hm2'; omega
  · omega

/-! ### Instants at one offset -/

/-- Digits read from the left onto `acc` stay below `acc + 1` shifted by their count. -/
theorem foldl_digits_lt (l : List Nat) (hl : ∀ d ∈ l, d < 10) (acc : Nat) :
    l.foldl (fun acc d => 10 * acc + d) acc < (acc + 1) * 10 ^ l.length := by
  induction l generalizing acc with
  | nil => simp
  | cons d l ih =>
    have hd := hl d (List.mem_cons_self _ _)
    calc (d :: l).foldl (fun acc d => 10 * acc + d) acc
        _ < (10 * acc + d + 1) * 10 ^ l.length :=
          ih (fun e he => hl e (List.mem_cons_of_mem _ he)) _
        _ ≤ (10 * (acc + 1)) * 10 ^ l.length := Nat.mul_le_mul_right _ (by omega)
        _ = (acc + 1) * 10 ^ (d :: l).length := by
          rw [List.length_cons, pow_succ', Nat.mul_assoc, Nat.mul_left_comm]

/-- A fraction of at most nine digits is less than a second. -/
theorem nanos_lt {fraction : List (Fin 10)} (h : fraction.length ≤ 9) :
    nanos fraction < 1000000000 := by
  have := foldl_digits_lt (fraction.map Fin.val ++ List.replicate (9 - fraction.length) 0)
    (by simp +contextual [or_imp]) 0
  simpa [nanos, Nat.add_sub_cancel' h] using this

/-- The fields of a timestamp fit the widths of its text. -/
theorem fields_lt (t : Timestamp) :
    t.year < 10000 ∧ t.month < 100 ∧ t.day < 100 ∧ t.hour < 100 ∧ t.minute < 100 ∧
      t.second < 100 := by
  obtain ⟨hy, -, hm, -, hd, hh, hmi, hs, -⟩ := t.valid
  have := daysInMonth_le t.year t.month
  omega

/-- On the dates of two timestamps, `daysFromCivil` compares as the numbers `YYYYMMDD`. -/
theorem daysFromCivil_lt_iff (t u : Timestamp) :
    daysFromCivil t.year t.month t.day < daysFromCivil u.year u.month u.day ↔
      (t.year * 100 + t.month) * 100 + t.day < (u.year * 100 + u.month) * 100 + u.day := by
  obtain ⟨-, hm1, hm2, hd1, hd2, -⟩ := t.valid
  obtain ⟨-, hm1', hm2', hd1', hd2', -⟩ := u.valid
  obtain ⟨-, hm, hd, -⟩ := fields_lt t
  obtain ⟨-, hm', hd', -⟩ := fields_lt u
  have hlt := daysFromCivil_lt ⟨hm1, hm2, hd1, hd2⟩ ⟨hm1', hm2', hd1', hd2'⟩
  have hgt := daysFromCivil_lt ⟨hm1', hm2', hd1', hd2'⟩ ⟨hm1, hm2, hd1, hd2⟩
  have heq : (t.year * 100 + t.month) * 100 + t.day = (u.year * 100 + u.month) * 100 + u.day →
      daysFromCivil t.year t.month t.day = daysFromCivil u.year u.month u.day := by
    intro h
    obtain ⟨h1, h2, h3⟩ : t.year = u.year ∧ t.month = u.month ∧ t.day = u.day := by omega
    rw [h1, h2, h3]
  omega

/-- At one offset, a timestamp with whole seconds is at most another one exactly when its
date and time of day are. -/
theorem instant_le_iff (t u : Timestamp) (ht : t.fraction = []) (hoff : t.offset = u.offset) :
    t.instant ≤ u.instant ↔ t.dateTimeNumber ≤ u.dateTimeNumber := by
  obtain ⟨-, -, -, -, -, hh, hmi, hs, -⟩ := t.valid
  obtain ⟨-, -, -, -, -, hh', hmi', hs', hf', -⟩ := u.valid
  have hlt := daysFromCivil_lt_iff t u
  have hgt := daysFromCivil_lt_iff u t
  have := nanos_lt hf'
  have h0 : nanos [] = 0 := rfl
  simp only [instant, dateTimeNumber, ht, hoff, h0]
  generalize daysFromCivil t.year t.month t.day = a at *
  generalize daysFromCivil u.year u.month u.day = b at *
  generalize (t.year * 100 + t.month) * 100 + t.day = p at *
  generalize (u.year * 100 + u.month) * 100 + u.day = q at *
  omega

/-! ### Digits -/

theorem digit_toNat (n : Nat) : (digit n).toNat = n % 10 + 48 := by
  unfold digit Char.ofNat
  rw [dif_pos (by unfold Nat.isValidChar; omega)]
  rfl

theorem digit_eq_digit {x y : Nat} : digit x = digit y ↔ x % 10 = y % 10 := by
  constructor
  · intro h; have := congrArg Char.toNat h; rw [digit_toNat, digit_toNat] at this; omega
  · intro h; rw [digit, digit, h]

end Timestamp

namespace MongoStorage

open Timestamp

/-! ### Texts of timestamps at one offset -/

@[simp] theorem lteText_cons_self (c : Char) (r r' : List Char) :
    lteText (c :: r) (c :: r') = lteText r r' := by
  simp [lteText]

theorem lteText_self : ∀ r : List Char, lteText r r = true
  | [] => rfl
  | c :: r => by rw [lteText_cons_self, lteText_self r]

/-- Two zero-padded numbers of one width compare as numbers, then what follows them. -/
theorem lteText_decimal_append (width x y : Nat) (r r' : List Char) :
    lteText (decimal width x ++ r) (decimal width y ++ r') =
      (x % 10 ^ width < y % 10 ^ width || x % 10 ^ width == y % 10 ^ width && lteText r r') := by
  induction width generalizing x y r r' with
  | zero => simp [decimal, Nat.mod_one]
  | succ width ih =>
    simp only [decimal, List.append_assoc, List.singleton_append, ih, lteText, digit_toNat,
      pow_succ', Nat.mod_mul]
    rw [Bool.eq_iff_iff]
    simp only [Bool.or_eq_true, Bool.and_eq_true, decide_eq_true_eq, beq_iff_eq, digit_eq_digit]
    generalize x / 10 % 10 ^ width = a
    generalize y / 10 % 10 ^ width = b
    cases lteText r r' <;> simp only [Bool.false_eq_true, and_false, or_false, and_true] <;> omega

/-- A text that compares a number and then a field of two digits compares the number that
writes both. -/
theorem lteText_lex {p q a b : Nat} (ha : a < 100) (hb : b < 100) (L : Bool) :
    (decide (p < q) || p == q && (decide (a < b) || a == b && L)) =
      (decide (p * 100 + a < q * 100 + b) || p * 100 + a == q * 100 + b && L) := by
  rw [Bool.eq_iff_iff]
  cases L <;> simp only [Bool.or_eq_true, Bool.and_eq_true, decide_eq_true_eq, beq_iff_eq,
    Bool.false_eq_true, and_false, or_false, and_true] <;> omega

/-- The texts of two dates and times of day compare as their numbers, then what follows them. -/
theorem lteText_dateTime (t u : Timestamp) (r r' : List Char) :
    lteText (t.dateTime ++ r) (u.dateTime ++ r') =
      (t.dateTimeNumber < u.dateTimeNumber ||
        t.dateTimeNumber == u.dateTimeNumber && lteText r r') := by
  obtain ⟨hy, hm, hd, hh, hmi, hs⟩ := fields_lt t
  obtain ⟨hy', hm', hd', hh', hmi', hs'⟩ := fields_lt u
  simp only [dateTime, List.append_assoc, List.cons_append, lteText_decimal_append,
    lteText_cons_self, Nat.reducePow, Nat.mod_eq_of_lt, hy, hm, hd, hh, hmi, hs, hy', hm', hd',
    hh', hmi', hs']
  rw [lteText_lex hm hm', lteText_lex hd hd', lteText_lex hh hh', lteText_lex hmi hmi',
    lteText_lex hs hs']
  rfl

/-- **`$lte` orders the instants of an activation time and the current time** when the
activation time is written with whole seconds at the offset of the server.  The current time is
formatted without its fraction, which changes nothing against a whole second. -/
theorem lteText_rfc3339 (t now : Timestamp) (ht : t.fraction = []) (hoff : t.offset = now.offset) :
    lteText t.text.data now.rfc3339.data = decide (t.instant ≤ now.instant) := by
  have h : t.text.data = t.dateTime ++ zone now.offset := by simp [text, ht, hoff]
  rw [h, rfc3339, String.data, lteText_dateTime, lteText_self, Bool.eq_iff_iff]
  simp only [Bool.or_eq_true, Bool.and_eq_true, decide_eq_true_eq, beq_iff_eq, and_true,
    instant_le_iff t now ht hoff]
  omega

/-- **`GetObjectsToActivate` returns the objects whose activation time has come** when the
activation time of every inactive object, if set, is written with whole seconds at the offset of
the server: the objects not ready or ready to send, inactive, with an activation time at most
the current instant. -/
theorem getObjectsToActivate_at_offset (s : MongoStorage) (now : Timestamp)
    (activation : Object → Timestamp)
    (hact : ∀ o ∈ s.objects, o.metaData.inactive = true → o.metaData.activationTime ≠ "" →
      o.metaData.activationTime = (activation o).text ∧ (activation o).fraction = [] ∧
        (activation o).offset = now.offset) :
    s.getObjectsToActivate now.rfc3339 =
      let result := s.objects.filter fun o =>
        (o.status == NotReadyToSend || o.status == ReadyToSend) && o.metaData.inactive &&
          o.metaData.activationTime != "" && decide ((activation o).instant ≤ now.instant)
      .ok (result.map Object.metaData, result.map Object.status) := by
  simp only [getObjectsToActivate]
  rw [List.filter_congr fun o ho => ?_]
  cases hi : o.metaData.inactive
  · simp [hi]
  by_cases h : o.metaData.activationTime = ""
  · simp [h]
  · obtain ⟨h1, h2, h3⟩ := hact o ho hi h
    rw [show lteText o.metaData.activationTime.data now.rfc3339.data = _ from
      h1 ▸ lteText_rfc3339 _ _ h2 h3]

/-- A server in UTC at 09:00:00.5 on 2024-01-01, an object to activate at 08:00:00 and one at
10:00:00 of that day. -/
theorem getObjectsToActivate_at_offset_due :
    let now : Timestamp := ⟨2024, 1, 1, 9, 0, 0, [5], 0, by decide⟩
    let due : Timestamp := ⟨2024, 1, 1, 8, 0, 0, [], 0, by decide⟩
    let later : Timestamp := ⟨2024, 1, 1, 10, 0, 0, [], 0, by decide⟩
    let object (objectID : String) (t : Timestamp) : Object :=
      { id := "org:type:" ++ objectID,
        metaData :=
          { objectID := objectID, objectType := "type", destOrgID := "org", destID := "",
            destType := "", expiration := "", inactive := true, activationTime := t.text,
            noData := false, metaOnly := false, expectedConsumers := 1, autoDelete := false,
            deleted := false, instanceID := 0, objectSize := 0 },
        status := ReadyToSend, remainingConsumers := 1, remainingReceivers := 1,
        destinations := [], lastUpdate := 1 }
    let s : MongoStorage :=
      { MongoStorage.empty with objects := [object "due" due, object "later" later] }
    (s.getObjectsToActivate now.rfc3339).map (·.1.map MetaData.objectID) = .ok ["due"] := by
  intro now due later object s
  rw [getObjectsToActivate_at_offset s now
    (fun o => if o.metaData.objectID = "due" then due else later) (by decide)]
  decide

end MongoStorage

end EdgeSync
