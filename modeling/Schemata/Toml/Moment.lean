import Schemata.Toml.Text

/-!
# TOML dates and times

A moment is a date, a time, or both with an optional offset. It is kept as it is written anew:
`T` between date and time, and no zeros at the end of fractions of a second.
-/

namespace Schemata.Toml.Reader

/-- Two digits whose value is in range. -/
def twoDigits (low high : Nat) : Reader (List Char) :=
  checked (counted 2 2 Char.isDigit) fun ds =>
    let value := (Numeral.natural? 10 ds).getD 0
    if low ≤ value && value ≤ high then .ok ds else .error { cause := some .outOfRange }

def isLeapYear (year : Nat) : Bool := year % 4 == 0 && (year % 100 != 0 || year % 400 == 0)

def daysInMonth (year month : Nat) : Nat :=
  if month == 2 then if isLeapYear year then 29 else 28
  else if month == 4 || month == 6 || month == 9 || month == 11 then 30
  else 31

def date : Reader (List Char) := do
  let year ← counted 4 4 Char.isDigit
  lit "-"
  let month ← settle (twoDigits 1 12)
  settle (lit "-")
  let value (ds : List Char) : Nat := (Numeral.natural? 10 ds).getD 0
  let day ← settle <| checked (twoDigits 1 31) fun day =>
    if value day ≤ daysInMonth (value year) (value month) then .ok day
    else .error { cause := some .outOfRange }
  return year ++ '-' :: month ++ '-' :: day

/-- A fraction of a second: nine digits count. -/
def secondFraction : Reader (List Char) := do
  lit "."
  let digits ← span1 Char.isDigit
  let kept := ((digits.take 9).reverse.dropWhile (· == '0')).reverse
  return if kept.isEmpty then [] else '.' :: kept

def time : Reader (List Char) := do
  let hour ← twoDigits 0 23
  lit ":"
  settle do
    let minute ← twoDigits 0 59
    lit ":"
    let second ← twoDigits 0 60
    let fraction ← maybe secondFraction
    return hour ++ ':' :: minute ++ ':' :: second ++ fraction.getD []

def timeOffset : Reader (List Char) :=
  named .timeOffset <| orElse (do discard (char fun c => c == 'Z' || c == 'z'); return ['Z']) do
    let sign ← char fun c => c == '+' || c == '-'
    let (hour, minute) ← settle do
      let hour ← twoDigits 0 23
      lit ":"
      return (hour, ← twoDigits 0 59)
    let isZero := (hour ++ minute).all (· == '0')
    return (if isZero then '+' else sign) :: hour ++ ':' :: minute

def dateTime : Reader (List Char) :=
  named .dateTime do
    let day ← date
    let rest ← maybe do
      discard (char fun c => c == 'T' || c == 't' || c == ' ')
      let t ← time
      return 'T' :: t ++ (← maybe timeOffset).getD []
    return day ++ rest.getD []

def moment : Reader String := do
  return String.ofList (← orElse dateTime (named .time time))

end Schemata.Toml.Reader
