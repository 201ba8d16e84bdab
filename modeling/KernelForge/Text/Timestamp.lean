import KernelForge.Text.Literal

/-!
Points in time as text: a date, or a date and a time of day with or without a zone. Month, day, hour, minute and second
may have one digit or two, and a second may have a fraction.
-/

namespace KernelForge.Text

/-- One or two digits with a value between two bounds, and what follows them. -/
def shortNumber? (least greatest : Nat) (characters : List Char) : Option (Nat × List Char) :=
  let digits := (characters.take 2).takeWhile isDecimalDigit
  let value := digitsValue digits
  if digits.isEmpty || value < least || greatest < value then none
  else some (value, characters.drop digits.length)

/-- What follows a character. -/
def afterChar? (character : Char) : List Char → Option (List Char)
  | [] => none
  | first :: rest => if first == character then some rest else none

/-- The number of days of a month. -/
def daysOfMonth (year month : Nat) : Nat :=
  if month = 2 then if year % 4 = 0 && (year % 100 ≠ 0 || year % 400 = 0) then 29 else 28
  else if [4, 6, 9, 11].contains month then 30
  else 31

/-- What follows a date: a year of four digits, a month and a day. -/
def afterDate? (characters : List Char) : Option (List Char) := do
  let year := characters.takeWhile isDecimalDigit
  if year.length ≠ 4 then none
  else
    let (month, rest) ← shortNumber? 1 12 (← afterChar? '-' (characters.drop 4))
    let (_, rest) ← shortNumber? 1 (daysOfMonth (digitsValue year) month) (← afterChar? '-' rest)
    return rest

/-- What follows a time of day. -/
def afterClock? (characters : List Char) : Option (List Char) := do
  let (_, rest) ← shortNumber? 0 23 characters
  let (_, rest) ← shortNumber? 0 59 (← afterChar? ':' rest)
  let (_, rest) ← shortNumber? 0 59 (← afterChar? ':' rest)
  match rest with
  | point :: digit :: more =>
    if (point == '.' || point == ',') && isDecimalDigit digit then return more.dropWhile isDecimalDigit
    else return rest
  | _ => return rest

/-- Whether a text is a zone: a `Z`, or a difference of hours and minutes. -/
def isZone : List Char → Bool
  | ['Z'] => true
  | [sign, a, b, ':', c, d] =>
    (sign == '+' || sign == '-') && [a, b, c, d].all isDecimalDigit && digitsValue [a, b] ≤ 24 &&
      digitsValue [c, d] ≤ 60
  | _ => false

/-- Whether a text is a point in time. Behind a `T` there has to be a zone, behind blanks there is none. -/
def isTimestamp (text : String) : Bool :=
  match afterDate? text.toList with
  | none => false
  | some [] => true
  | some (mark :: clock) =>
    match afterClock? (if mark == ' ' then clock.dropWhile (· == ' ') else clock) with
    | none => false
    | some zone => if mark == 'T' || mark == 't' then isZone zone else mark == ' ' && zone.isEmpty

end KernelForge.Text
