import SmartQuotes.Number.Decimal

/-!
# Days and moments

A moment is a day with the time of the day and perhaps a time zone. It is read from a text with
dashes and colons; a day without a time is no moment.
-/

namespace SmartQuotes.Yaml

/-- A day of the calendar. -/
structure Day where
  year : Nat
  month : Nat
  day : Nat
deriving DecidableEq, Repr

/-- The time of a day, and how many minutes it is ahead of the world time where that is told. -/
structure Clock where
  hour : Nat
  minute : Nat
  second : Nat
  micro : Nat
  zone : Option Int
deriving DecidableEq, Repr

/-- Why a day or a clock cannot be. -/
inductive Moment.Fault
  | year (n : Nat)
  | month
  | day
  | hour
  | minute
  | second
  | zone (minutes : Int)
deriving DecidableEq, Repr

/-- A number with at least `width` digits. -/
def padded (width n : Nat) : Text :=
  List.replicate (width - (Number.digitsOf n).length) '0' ++ Number.digitsOf n

/-! ## Lengths of time -/

/-- The form in which messages show minutes: whole days, and the seconds beyond. -/
def shownMinutes (m : Int) : Text :=
  let days := m.fdiv 1440
  let seconds := m.fmod 1440 * 60
  let parts := (if days = 0 then [] else [s!"days={days}"]) ++
    (if seconds = 0 then [] else [s!"seconds={seconds}"])
  text ("datetime.timedelta(" ++ (if parts.isEmpty then "0" else ", ".intercalate parts) ++ ")")

def Moment.Fault.message : Moment.Fault → Text
  | year n => text s!"year {n} is out of range"
  | month => text "month must be in 1..12"
  | day => text "day is out of range for month"
  | hour => text "hour must be in 0..23"
  | minute => text "minute must be in 0..59"
  | second => text "second must be in 0..59"
  | zone minutes =>
    text "offset must be a timedelta strictly between -timedelta(hours=24) and " ++
      text "timedelta(hours=24), not " ++ shownMinutes minutes ++ ['.']

/-! ## Days -/

namespace Day

def isLeap (year : Nat) : Bool := year % 4 == 0 && (year % 100 != 0 || year % 400 == 0)

/-- The number of days in a month. -/
def length (year month : Nat) : Nat :=
  if month == 2 then if isLeap year then 29 else 28
  else if [4, 6, 9, 11].contains month then 30 else 31

/-- The day, if there is one. -/
def check (d : Day) : Except Moment.Fault Day :=
  if d.year = 0 then .error (.year d.year)
  else if d.month = 0 || 12 < d.month then .error .month
  else if d.day = 0 || length d.year d.month < d.day then .error .day
  else .ok d

/-- Year, month and day with dashes between them. -/
def written (d : Day) : Text :=
  padded 4 d.year ++ ['-'] ++ padded 2 d.month ++ ['-'] ++ padded 2 d.day

def shown (d : Day) : Text := text s!"datetime.date({d.year}, {d.month}, {d.day})"

end Day

/-! ## Clocks -/

namespace Clock

/-- Whether the zone is less than a day ahead or behind. -/
def checkZone (zone : Option Int) : Except Moment.Fault Unit :=
  match zone with
  | none => .ok ()
  | some m => if m.natAbs < 1440 then .ok () else .error (.zone m)

/-- The clock, if it shows a time of a day. -/
def check (c : Clock) : Except Moment.Fault Clock :=
  if 23 < c.hour then .error .hour
  else if 59 < c.minute then .error .minute
  else if 59 < c.second then .error .second
  else .ok c

/-- The zone behind a time. -/
def writtenZone (m : Int) : Text :=
  (if m < 0 then '-' else '+') :: padded 2 (m.natAbs / 60) ++ [':'] ++ padded 2 (m.natAbs % 60)

/-- Hours, minutes and seconds with colons between them. -/
def written (c : Clock) : Text :=
  padded 2 c.hour ++ [':'] ++ padded 2 c.minute ++ [':'] ++ padded 2 c.second ++
    (if c.micro = 0 then [] else '.' :: padded 6 c.micro) ++ (c.zone.map writtenZone).getD []

/-- The form of a zone in messages. -/
def shownZone (m : Int) : Text :=
  if m = 0 then text "datetime.timezone.utc"
  else text "datetime.timezone(" ++ shownMinutes m ++ [')']

/-- The form in messages of a moment: seconds are left out when nothing follows the minutes. -/
def shown (c : Clock) (d : Day) : Text :=
  let seconds := if c.micro ≠ 0 then s!", {c.second}, {c.micro}"
    else if c.second ≠ 0 then s!", {c.second}" else ""
  text s!"datetime.datetime({d.year}, {d.month}, {d.day}, {c.hour}, {c.minute}{seconds}" ++
    (c.zone.map fun m => text ", tzinfo=" ++ shownZone m).getD [] ++ [')']

end Clock

/-! ## Reading -/

/-- The fields of a moment as they are written. -/
structure Moment where
  date : Text × Text × Text
  time : Option (Text × Text × Text) := none
  fraction : Text := []
  zone : Option Int := none
deriving DecidableEq, Repr

namespace Moment

/-- Between `least` and two digits in front. -/
def digits? (least most : Nat) (t : Text) : Option (Text × Text) :=
  let found := (t.take most).takeWhile Number.isDigit
  if least ≤ found.length then some (found, t.drop found.length) else none

/-- The rest behind a character. -/
def behind? (c : Char) : Text → Option Text
  | d :: t => if c = d then some t else none
  | [] => none

def isGap (c : Char) : Bool := c == ' ' || c == '\t'

/-- The zone that ends a moment, in minutes. -/
def zone? (t : Text) : Option (Option Int) :=
  match t with
  | [] => some none
  | _ =>
    match t.dropWhile isGap with
    | ['Z'] => some (some 0)
    | sign :: r =>
      if sign = '+' || sign = '-' then do
        let (hours, r) ← digits? 1 2 r
        let minutes ← match r with
          | [] => some []
          | _ => do
            let (minutes, r) ← digits? 2 2 (← behind? ':' r)
            if r.isEmpty then some minutes else none
        let m : Int := Number.natural hours * 60 + Number.natural minutes
        return some (if sign = '-' then -m else m)
      else none
    | [] => none

/-- The time behind a day. -/
def time? (date : Text × Text × Text) (t : Text) : Option Moment := do
  let (hour, t) ← digits? 1 2 t
  let (minute, t) ← digits? 2 2 (← behind? ':' t)
  let (second, t) ← digits? 2 2 (← behind? ':' t)
  let (fraction, t) := match t with
    | '.' :: t => (t.takeWhile Number.isDigit, t.dropWhile Number.isDigit)
    | t => ([], t)
  return { date, time := some (hour, minute, second), fraction, zone := ← zone? t }

/-- The fields of a day or a moment. -/
def ofText? (t : Text) : Option Moment := do
  let (year, t) ← digits? 4 4 t
  let (month, t) ← digits? 1 2 (← behind? '-' t)
  let (day, t) ← digits? 1 2 (← behind? '-' t)
  match t with
  | [] => return { date := (year, month, day) }
  | c :: r =>
    if c = 'T' || c = 't' then time? (year, month, day) r
    else if isGap c then time? (year, month, day) (r.dropWhile isGap)
    else none

/-- Whether a plain text is taken for a day or a moment: the month and the day have two digits if
nothing follows them. -/
def isPlain (t : Text) : Bool :=
  match ofText? t with
  | none => false
  | some m => m.time.isSome || (m.date.2.1.length == 2 && m.date.2.2.length == 2)

/-- Millionths of a second; further digits are cut off. -/
def micro (fraction : Text) : Nat :=
  let ds := fraction.take 6
  Number.natural (ds ++ List.replicate (6 - ds.length) '0')

/-- The day of the fields and the clock, if a time is told. -/
def read (m : Moment) : Except Fault (Day × Option Clock) := do
  let day : Day := ⟨Number.natural m.date.1, Number.natural m.date.2.1, Number.natural m.date.2.2⟩
  match m.time with
  | none => return (← day.check, none)
  | some (hour, minute, second) =>
    Clock.checkZone m.zone
    let day ← day.check
    let clock ← Clock.check
      { hour := Number.natural hour, minute := Number.natural minute
        second := Number.natural second, micro := micro m.fraction, zone := m.zone }
    return (day, some clock)

end Moment

end SmartQuotes.Yaml
