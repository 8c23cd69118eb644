namespace BucketPlan

/-- A day of the calendar, at its midnight in universal time where a moment is meant. -/
structure Date where
  year : Nat
  month : Nat
  day : Nat
deriving DecidableEq, Repr, Inhabited

inductive DateFault where
  | malformed (text : String)
  | yearOutOfRange (year : Nat)
  | monthOutOfRange
  | dayOutOfRange
deriving DecidableEq, Repr

namespace Date

def isLeap (year : Nat) : Bool :=
  year % 4 == 0 && (year % 100 != 0 || year % 400 == 0)

def monthLength (year month : Nat) : Nat :=
  if month == 2 then (if isLeap year then 29 else 28)
  else if month == 4 || month == 6 || month == 9 || month == 11 then 30
  else 31

/-- The number of days before the first of January, counted from the year one. -/
def daysBefore (year : Nat) : Nat :=
  let past := year - 1
  365 * past + past / 4 - past / 100 + past / 400

/-- The weekday of the first of January, Monday being zero. -/
def firstWeekday (year : Nat) : Nat :=
  daysBefore year % 7

/-- A year has a week 53 when it starts on a Thursday, or on a Wednesday and is a leap year. -/
def weeksIn (year : Nat) : Nat :=
  if firstWeekday year == 3 || (firstWeekday year == 2 && isLeap year) then 53 else 52

/-- The Monday of the first week, the one that holds the first Thursday, as a day count. -/
def firstMonday (year : Nat) : Nat :=
  if firstWeekday year ≤ 3 then daysBefore year + 1 - firstWeekday year
  else daysBefore year + 8 - firstWeekday year

/-- The date of the `n`th day of a year, counted on from `month`. -/
def ofDayOfYear (year : Nat) : (fuel month n : Nat) → Date
  | 0, month, n => ⟨year, month, n⟩
  | fuel + 1, month, n =>
    if n ≤ monthLength year month then ⟨year, month, n⟩
    else ofDayOfYear year fuel (month + 1) (n - monthLength year month)

/-- The date of a day count that lies in `year` or in the year after it. -/
def ofDayCount (year count : Nat) : Date :=
  if count ≤ daysBefore year then ofDayOfYear (year - 1) 12 1 (count - daysBefore (year - 1))
  else if count ≤ daysBefore (year + 1) then ofDayOfYear year 12 1 (count - daysBefore year)
  else ofDayOfYear (year + 1) 12 1 (count - daysBefore (year + 1))

/-- The two ways to write a day: by month, or by week of the year. -/
inductive Written where
  | civil (year month day : Nat)
  | week (year week day : Nat)
deriving DecidableEq, Repr

def digit? (c : Char) : Option Nat :=
  if '0' ≤ c ∧ c ≤ '9' then some (c.toNat - '0'.toNat) else none

/-- Reads exactly `count` digits. -/
def digits? : (count total : Nat) → List Char → Option (Nat × List Char)
  | 0, total, rest => some (total, rest)
  | _ + 1, _, [] => none
  | count + 1, total, c :: rest => (digit? c).bind fun d => digits? count (10 * total + d) rest

/-- What may stand behind a day: nothing, or two bytes that are not read where the date is compact,
since a text may be as long as a separated date. -/
def mayFollow (separated : Bool) (rest : List Char) : Bool :=
  rest.isEmpty || (!separated && (String.ofList rest).utf8ByteSize == 2)

/-- Reads the day of the week that ends a date; without one the week stands for its Monday. -/
def weekday? (separated : Bool) : List Char → Option Nat
  | [] => some 1
  | c :: rest =>
    let digits := if separated then (if c = '-' then rest else []) else c :: rest
    match digits? 1 0 digits with
    | some (day, rest) => if mayFollow separated rest then some day else none
    | none => none

def monthAndDay? (separated : Bool) (text : List Char) : Option (Nat × Nat) := do
  let (month, rest) ← digits? 2 0 text
  let rest ← match separated, rest with
    | true, '-' :: rest => some rest
    | true, _ => none
    | false, rest => some rest
  let (day, rest) ← digits? 2 0 rest
  if mayFollow separated rest then some (month, day) else none

/-- `2030-01-31`, `20300131`, `2030-W05-4`, `2030W054`, `2030-W05` and `2030W05`, and what may follow
a day. -/
def written? (text : List Char) : Option Written := do
  let (year, rest) ← digits? 4 0 text
  let (separated, rest) := match rest with
    | '-' :: rest => (true, rest)
    | rest => (false, rest)
  match rest with
  | 'W' :: rest => do
    let (week, rest) ← digits? 2 0 rest
    return .week year week (← weekday? separated rest)
  | rest => do
    let (month, day) ← monthAndDay? separated rest
    return .civil year month day

def ofCivil (year month day : Nat) : Except DateFault Date :=
  if year = 0 ∨ 9999 < year then .error (.yearOutOfRange year)
  else if month = 0 ∨ 12 < month then .error .monthOutOfRange
  else if day = 0 ∨ monthLength year month < day then .error .dayOutOfRange
  else .ok ⟨year, month, day⟩

/-- A week or weekday that the year does not have makes the text malformed; a year zero has weeks but
no month that they could fall into. -/
def ofWeek (text : String) (year week day : Nat) : Except DateFault Date :=
  if week = 0 ∨ weeksIn year < week ∨ day = 0 ∨ 7 < day then .error (.malformed text)
  else if year = 0 then .error .monthOutOfRange
  else
    let date := ofDayCount year (firstMonday year + (week - 1) * 7 + (day - 1))
    ofCivil date.year date.month date.day

/-- The day that an ISO 8601 calendar or week date writes. -/
def parse (text : String) : Except DateFault Date :=
  match written? text.toList with
  | some (.civil year month day) => ofCivil year month day
  | some (.week year week day) => ofWeek text year week day
  | none => .error (.malformed text)

def padded (width n : Nat) : String :=
  let digits := toString n
  String.ofList (List.replicate (width - digits.length) '0') ++ digits

/-- The text of a moment. -/
def text (date : Date) : String :=
  s!"{padded 4 date.year}-{padded 2 date.month}-{padded 2 date.day} 00:00:00+00:00"

/-- The expression that a moment is shown by inside another value. -/
def expression (date : Date) : String :=
  s!"datetime.datetime({date.year}, {date.month}, {date.day}, 0, 0, tzinfo=datetime.timezone.utc)"

end Date

end BucketPlan
