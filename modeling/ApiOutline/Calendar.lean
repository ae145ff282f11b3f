import ApiOutline.Text.Digit

/-!
Days of the Gregorian calendar from year 1 to 9999, and moments on such a day with an optional
offset from universal time. Two moments with offsets are the same instant when they differ by their
offsets only; a moment without an offset is no instant at all.
-/
namespace ApiOutline.Calendar

structure Date where
  year : Nat
  month : Nat
  day : Nat
  deriving DecidableEq, Repr, Inhabited

/-- A time of a day. The offset counts minutes east of universal time. -/
structure Moment where
  date : Date
  hour : Nat
  minute : Nat
  second : Nat
  microsecond : Nat
  offset : Option Int
  deriving DecidableEq, Repr, Inhabited

def isLeap (year : Nat) : Bool := year % 4 == 0 && (year % 100 != 0 || year % 400 == 0)

def daysInMonth (year month : Nat) : Nat :=
  if month = 2 then (if isLeap year then 29 else 28)
  else if month = 4 ∨ month = 6 ∨ month = 9 ∨ month = 11 then 30
  else 31

def Date.checked? (d : Date) : Option Date :=
  if 1 ≤ d.year ∧ d.year ≤ 9999 ∧ 1 ≤ d.month ∧ d.month ≤ 12 ∧ 1 ≤ d.day
      ∧ d.day ≤ daysInMonth d.year d.month then some d else none

def Moment.checked? (m : Moment) : Option Moment :=
  if m.date.checked?.isSome && m.hour < 24 && m.minute < 60 && m.second < 60
      && m.offset.all (·.natAbs < 24 * 60) then some m else none

def Date.number (d : Date) : Nat :=
  let y := d.year - 1
  y * 365 + y / 4 - y / 100 + y / 400
    + (List.range (d.month - 1)).foldl (fun n m => n + daysInMonth d.year (m + 1)) 0 + d.day

def Date.ofNumber (n : Nat) : Date :=
  let era := (n + 305) / 146097
  let day := (n + 305) % 146097
  let year := (day - day / 1460 + day / 36524 - day / 146096) / 365
  let dayOfYear := day - (365 * year + year / 4 - year / 100)
  let month := (5 * dayOfYear + 2) / 153
  let isNextYear := 10 ≤ month
  { year := era * 400 + year + (if isNextYear then 1 else 0)
    month := if isNextYear then month - 9 else month + 3
    day := dayOfYear - (153 * month + 2) / 5 + 1 }

def Moment.instant? (m : Moment) : Option Int :=
  m.offset.map fun o =>
    let minutes : Int := ((m.date.number * 24 + m.hour) * 60 + m.minute : Nat) - o
    (minutes * 60 + m.second) * 1000000 + m.microsecond

def Date.iso (d : Date) : String :=
  Text.padded 4 d.year ++ "-" ++ Text.padded 2 d.month ++ "-" ++ Text.padded 2 d.day

def offsetText (o : Int) : String :=
  (if o < 0 then "-" else "+") ++ Text.padded 2 (o.natAbs / 60) ++ ":"
    ++ Text.padded 2 (o.natAbs % 60)

def Moment.stamp (separator : String) (zone : Int → String) (m : Moment) : String :=
  m.date.iso ++ separator ++ Text.padded 2 m.hour ++ ":" ++ Text.padded 2 m.minute ++ ":"
    ++ Text.padded 2 m.second
    ++ (if m.microsecond = 0 then "" else "." ++ Text.padded 6 m.microsecond)
    ++ ((m.offset.map zone).getD "")

def Moment.iso (m : Moment) : String := m.stamp "T" offsetText

def epoch : Date := ⟨1970, 1, 1⟩

def digitsOfSeconds (n : Nat) : String :=
  let d := Date.ofNumber (epoch.number + n / 86400)
  let time := n % 86400
  Text.padded 4 d.year ++ Text.padded 2 d.month ++ Text.padded 2 d.day ++ "-"
    ++ Text.padded 2 (time / 3600) ++ Text.padded 2 (time / 60 % 60) ++ Text.padded 2 (time % 60)

def Moment.zulu (m : Moment) : String := m.stamp "T" fun o => if o = 0 then "Z" else offsetText o

end ApiOutline.Calendar
