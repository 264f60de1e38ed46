import Rollout.Text.Double
import Rollout.Toml.Quoted

/-!
# Numbers, dates and truth values in TOML

What a date or a number may look like. Where both could be meant, a date comes first, then a number
with fraction or exponent, then a whole number.
-/

namespace Rollout.Toml.Scalar

open Reader Text

/-- A row of digits in which single underscores may stand between two digits. -/
def digitRow (isDigit : Char → Bool) (cs : List Char) : Option (List Char × List Char) :=
  match cs with
  | [] => none
  | c :: r => if isDigit c then some (further [c] r) else none
where
  /-- The digits after the first, those so far in reverse. -/
  further (got : List Char) : List Char → List Char × List Char
    | [] => (got.reverse, [])
    | '_' :: c :: r =>
      if isDigit c then further (c :: got) r else (got.reverse, '_' :: c :: r)
    | c :: r => if isDigit c then further (c :: got) r else (got.reverse, c :: r)

/-- Digits with single underscores between them. -/
def digits (isDigit : Char → Bool) : Reader (List Char) := digitRow isDigit

/-- A sign, if there is one: whether the number is negative. -/
def sign : Reader Bool := do
  if ← accept "-" then return true
  else
    let _ ← accept "+"
    return false

/-- A whole number in decimals: a zero stands alone. -/
def wholeDigits : Reader (List Char) := do
  if ← accept "0" then return ['0'] else digits Char.isDigit

/-- The value of a row of digits to some base. -/
def valueTo (base : Nat) (cs : List Char) : Nat :=
  cs.foldl (fun n c => base * n + (Text.Numeral.hexDigit? c).getD 0) 0

/-- The integer, if it fits into 64 bits. -/
def fit (n : Int) : Reader Value :=
  if -9223372036854775808 ≤ n ∧ n < 9223372036854775808 then return .integer n else failure

/-- Whether a character is a digit to the base sixteen. -/
def isHexDigit (c : Char) : Bool := (Text.Numeral.hexDigit? c).isSome

/-- A whole number. -/
def integer : Reader Value := do
  if ← accept "0x" then fit (valueTo 16 (← digits isHexDigit))
  else if ← accept "0o" then fit (valueTo 8 (← digits fun c => '0' ≤ c && c ≤ '7'))
  else if ← accept "0b" then fit (valueTo 2 (← digits fun c => c = '0' || c = '1'))
  else
    let negative ← sign
    let n := valueTo 10 (← wholeDigits)
    fit (if negative then -(n : Int) else n)

/-- The exponent of a number, its letter included. -/
def exponent : Reader Int := do
  let _ ← one fun c => c = 'e' || c = 'E'
  let negative ← sign
  let n := valueTo 10 (← digits Char.isDigit)
  return if negative then -(n : Int) else n

/-- The fraction of a number, its point included. -/
def fraction : Reader (List Char) := do
  expect "."
  digits Char.isDigit

/-- A number with fraction or exponent. A positive one has to be finite in double precision. -/
def float : Reader Value := do
  let negative ← sign
  if ← accept "inf" then return .float
  if ← accept "nan" then return .float
  let whole ← wholeDigits
  let tail ← optional fraction
  let power ← if tail.isSome then optional exponent else some <$> exponent
  let decimals := tail.getD []
  -- a negative one may be as large as it likes
  if negative ||
      Double.isFinite (Numeral.value (whole ++ decimals)) (power.getD 0 - decimals.length) then
    return .float
  else failure

/-- `n` digits. -/
def fixed : Nat → Reader (List Char)
  | 0 => return []
  | n + 1 => return (← one Char.isDigit) :: (← fixed n)

/-- A number of `n` digits between two limits. -/
def between (n low high : Nat) : Reader Nat := do
  let v := Numeral.value (← fixed n)
  if low ≤ v ∧ v ≤ high then return v else failure

/-- The number of days of a month. -/
def daysOf (year month : Nat) : Nat :=
  if month = 2 then
    if year % 4 = 0 ∧ (year % 100 ≠ 0 ∨ year % 400 = 0) then 29 else 28
  else if month = 4 ∨ month = 6 ∨ month = 9 ∨ month = 11 then 30
  else 31

/-- A day. -/
def day : Reader Unit := do
  let year ← between 4 0 9999
  expect "-"
  let month ← between 2 1 12
  expect "-"
  let _ ← between 2 1 (daysOf year month)

/-- A time of day. -/
def time : Reader Unit := do
  let _ ← between 2 0 23
  expect ":"
  let _ ← between 2 0 59
  expect ":"
  let _ ← between 2 0 60
  if ← accept "." then
    let _ ← one Char.isDigit
    let _ ← takeWhile Char.isDigit

/-- The distance of a time from world time. -/
def offset : Reader Unit := do
  let c ← one fun c => c = 'Z' || c = 'z' || c = '+' || c = '-'
  if c = '+' || c = '-' then
    let _ ← between 2 0 23
    expect ":"
    let _ ← between 2 0 59

/-- A time that follows a day. -/
def timeOfDay : Reader Unit := do
  let _ ← one fun c => c = 'T' || c = 't' || c = ' '
  time
  let _ ← optional offset

/-- A day, a day with a time, or a time. -/
def date : Reader Value := do
  (do day; let _ ← optional timeOfDay) <|> time
  return .date

/-- A scalar other than a quoted text. -/
def bare : Reader Value := do
  if ← accept "true" then return .boolean true
  else if ← accept "false" then return .boolean false
  else date <|> float <|> integer

end Rollout.Toml.Scalar
