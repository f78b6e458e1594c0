set_option autoImplicit false

namespace ApiCatalog

structure ClockTime where
  hour : Nat
  minute : Nat
  second : Nat
  micro : Nat
  offset : Option Int
  deriving DecidableEq, Repr

structure Moment where
  year : Nat
  month : Nat
  day : Nat
  time : Option ClockTime
  deriving DecidableEq, Repr

namespace Moment

def isLeap (year : Nat) : Bool := year % 4 == 0 && (year % 100 != 0 || year % 400 == 0)

def monthLength (year month : Nat) : Nat :=
  if month = 2 then (if isLeap year then 29 else 28)
  else if [4, 6, 9, 11].contains month then 30
  else 31

def ClockTime.isValid (t : ClockTime) : Bool :=
  t.hour < 24 && t.minute < 60 && t.second < 60 && t.micro < 1000000 &&
    t.offset.all fun minutes => minutes.natAbs < 24 * 60

def isValid (m : Moment) : Bool :=
  1 ≤ m.year && 1 ≤ m.month && m.month ≤ 12 && 1 ≤ m.day && m.day ≤ monthLength m.year m.month &&
    m.time.all ClockTime.isValid

def daysBefore (year : Nat) : Nat :=
  let past := year - 1
  365 * past + past / 4 - past / 100 + past / 400

def dayNumber (m : Moment) : Nat :=
  let months := (List.range m.month).drop 1
  daysBefore m.year + months.foldl (fun days month => days + monthLength m.year month) 0 +
    (m.day - 1)

def instant? (m : Moment) : Option Int := do
  let t ← m.time
  let offset ← t.offset
  let minutes : Int := ((m.dayNumber * 24 + t.hour) * 60 + t.minute : Nat) - offset
  return (minutes * 60 + t.second) * 1000000 + t.micro

def padded (width n : Nat) : String :=
  let digits := Nat.toDigits 10 n
  String.ofList (List.replicate (width - digits.length) '0' ++ digits)

def offsetText (minutes : Int) : String :=
  (if minutes < 0 then "-" else "+") ++ padded 2 (minutes.natAbs / 60) ++ ":" ++
    padded 2 (minutes.natAbs % 60)

def iso (separator : String) (m : Moment) : String :=
  let date := padded 4 m.year ++ "-" ++ padded 2 m.month ++ "-" ++ padded 2 m.day
  match m.time with
  | none => date
  | some t =>
    date ++ separator ++ padded 2 t.hour ++ ":" ++ padded 2 t.minute ++ ":" ++ padded 2 t.second ++
      (if t.micro = 0 then "" else "." ++ padded 6 t.micro) ++
      (t.offset.map offsetText).getD ""

end Moment

end ApiCatalog
