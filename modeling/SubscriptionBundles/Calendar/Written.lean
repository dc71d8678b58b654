import SubscriptionBundles.Calendar.Instant
import SubscriptionBundles.Text.Digits
import SubscriptionBundles.Text.Ranges

/-!
# Written dates and instants

A date is written `2026-03-01`.  Years from 0 to 9999 have four digits; any other year has a sign
and at least four.  An instant is its UTC date and what the clock shows, with 3, 6 or 9 digits of a
second's fraction, the fewest that lose nothing; a leap second is second 60 of its minute.

* `Date.written`, `Instant.writtenIn`  the text, an instant's in one of the `InstantStyle`s;
* `Date.read?`, `Instant.read?`        the value of a text, if it is one.

Readers are lenient.  Blanks may stand before any number and before the marks that follow one,
numbers may have fewer digits, and an instant may give its time zone as `Z`, `UTC` or an offset
such as `+02:00`, which is taken off.  The value must be representable.
-/

namespace SubscriptionBundles

open Text

/-! ## writing -/

def writtenYear (year : Int) : List Char :=
  if 0 ≤ year ∧ year ≤ 9999 then padded 4 year.toNat
  else
    (if year < 0 then '-' else '+') ::
      (if year.natAbs ≤ 9999 then padded 4 year.natAbs else decimal year.natAbs)

def Date.chars (d : Date) : List Char :=
  writtenYear d.year ++ '-' :: padded 2 d.month ++ '-' :: padded 2 d.day

def Date.written (d : Date) : String := String.ofList d.chars

def writtenFraction (nanoseconds : Nat) : List Char :=
  if nanoseconds = 0 then []
  else if nanoseconds % 1000000 = 0 then '.' :: padded 3 (nanoseconds / 1000000)
  else if nanoseconds % 1000 = 0 then '.' :: padded 6 (nanoseconds / 1000)
  else '.' :: padded 9 nanoseconds

def writtenTime (t : TimeOfDay) : List Char :=
  padded 2 t.hour ++ ':' :: padded 2 t.minute ++ ':' :: padded 2 t.clockSecond
    ++ writtenFraction t.nanosecond

/-- what stands between date and time and after them -/
structure InstantStyle where
  separator : Char
  zone : List Char

namespace InstantStyle

/-- in messages between services -/
def wire : InstantStyle := ⟨'T', ['Z']⟩

/-- in names, with the offset spelled out -/
def offset : InstantStyle := ⟨'T', ['+', '0', '0', ':', '0', '0']⟩

/-- in sentences -/
def sentence : InstantStyle := ⟨' ', [' ', 'U', 'T', 'C']⟩

end InstantStyle

def Instant.charsIn (style : InstantStyle) (i : Instant) : List Char :=
  i.date.chars ++ style.separator :: writtenTime i.time ++ style.zone

def Instant.writtenIn (style : InstantStyle) (i : Instant) : String :=
  String.ofList (i.charsIn style)

def Instant.written (i : Instant) : String := i.writtenIn .wire

/-! ## reading -/

/-- a step of reading: a value and what follows it -/
abbrev Scan (α : Type) := List Char → Option (α × List Char)

/-- a number of at most `limit` digits, blanks allowed before it -/
def scanNumber (limit : Nat) : Scan Nat := fun cs => takeNumber limit (skipBlanks cs)

/-- a mark, blanks allowed before it -/
def scanMark (mark : Char) (cs : List Char) : Option (List Char) :=
  match skipBlanks cs with
  | c :: rest => if c = mark then some rest else none
  | [] => none

/-- a year: four digits at most, or any number of them after a sign -/
def scanYear : Scan Int := fun cs =>
  match skipBlanks cs with
  | '-' :: rest => (takeLongNumber rest).map fun (n, rest) => (-(n : Int), rest)
  | '+' :: rest => (takeLongNumber rest).map fun (n, rest) => ((n : Int), rest)
  | rest => (takeNumber 4 rest).map fun (n, rest) => ((n : Int), rest)

def scanDate : Scan Date := fun cs => do
  let (year, cs) ← scanYear cs
  let cs ← scanMark '-' cs
  let (month, cs) ← scanNumber 2 cs
  let cs ← scanMark '-' cs
  let (day, cs) ← scanNumber 2 cs
  let date ← Date.ofYmd? year month day
  let date ← date.representable?
  return (date, cs)

def Date.readChars? (cs : List Char) : Option Date :=
  match scanDate cs with
  | some (date, rest) => if (skipBlanks rest).isEmpty then some date else none
  | none => none

def Date.read? (text : String) : Option Date := Date.readChars? text.toList

/-- nanoseconds of a fraction that starts here; digits beyond the ninth say nothing -/
def scanFraction : Scan Nat
  | '.' :: rest => do
    let (n, after) ← takeNumber 9 rest
    let used := rest.length - after.length
    return (n * Nat.pow 10 (9 - used), after.dropWhile Char.isDigit)
  | rest => some (0, rest)

def scanTime : Scan TimeOfDay := fun cs => do
  let (hour, cs) ← scanNumber 2 cs
  let cs ← scanMark ':' cs
  let (minute, cs) ← scanNumber 2 cs
  let cs ← scanMark ':' cs
  let (second, cs) ← scanNumber 2 cs
  let (fraction, cs) ← scanFraction cs
  let time ← TimeOfDay.ofClock? hour minute second fraction
  return (time, cs)

/-- two digits, no more and no fewer -/
def scanPair : Scan Nat
  | a :: b :: rest => if a.isDigit && b.isDigit then some (ofDigits [a, b], rest) else none
  | _ => none

/-- hours and minutes of an offset, as minutes -/
def scanHoursMinutes : Scan Nat := fun cs => do
  let (hours, cs) ← scanPair cs
  let (minutes, cs) ← scanPair (cs.dropWhile fun c => c = ':' || isBlank c)
  if minutes < 60 ∧ hours < 24 then return (hours * 60 + minutes, cs) else none

/-- minutes that the zone is ahead of UTC -/
def scanZone : Scan Int := fun cs =>
  match cs with
  | 'Z' :: rest => some (0, rest)
  | 'z' :: rest => some (0, rest)
  | '+' :: rest => (scanHoursMinutes rest).map fun (n, rest) => ((n : Int), rest)
  | '-' :: rest => (scanHoursMinutes rest).map fun (n, rest) => (-(n : Int), rest)
  | '\u2212' :: rest => (scanHoursMinutes rest).map fun (n, rest) => (-(n : Int), rest)
  | u :: t :: c :: rest =>
    if u.toUpper = 'U' ∧ t.toUpper = 'T' ∧ c.toUpper = 'C' then some (0, rest) else none
  | _ => none

def Instant.readChars? (cs : List Char) : Option Instant := do
  let (date, cs) ← scanDate cs
  let cs ← match cs with
    | 'T' :: rest => some rest
    | 't' :: rest => some rest
    | ' ' :: rest => some rest
    | _ => none
  let (time, cs) ← scanTime cs
  let (ahead, cs) ← scanZone (skipBlanks cs)
  if (skipBlanks cs).isEmpty then ((Instant.ofDate date time).addMinutes (-ahead)).representable?
  else none

def Instant.read? (text : String) : Option Instant := Instant.readChars? text.toList

end SubscriptionBundles
