import LuaSession.Lua.Arguments

/-!
# The system library

The clock, the calendar and the environment. Days are counted in the Gregorian calendar and without
a difference to universal time.

As in the file library there are no files and no commands, which restricts what is said about programs
that use them: `os.execute` finds no shell, and `os.remove` and `os.rename` find no file. A process in
which they succeed is not covered.
-/

namespace LuaSession.Lua

open LuaSession.Number LuaSession.Lua.Task

/-- A moment in the calendar. -/
structure Moment where
  year : Int
  month : Nat
  day : Nat
  hour : Nat
  minute : Nat
  second : Nat
  weekday : Nat
  yearday : Nat

namespace Moment

/-- The days from the beginning of 1970 to a day of a month of a year. -/
def dayNumber (year : Int) (month day : Int) : Int :=
  let y := if month ≤ 2 then year - 1 else year
  let era := y.fdiv 400
  let yearOfEra := y - era * 400
  let monthFromMarch := (month + 9).fmod 12
  let dayOfYear := (153 * monthFromMarch + 2).fdiv 5 + day - 1
  let dayOfEra := yearOfEra * 365 + yearOfEra.fdiv 4 - yearOfEra.fdiv 100 + dayOfYear
  era * 146097 + dayOfEra - 719468

/-- The moment some seconds after the beginning of 1970. -/
def ofSeconds (t : Int) : Moment :=
  let days := t.fdiv 86400
  let rest := (t.fmod 86400).toNat
  let z := days + 719468
  let era := z.fdiv 146097
  let dayOfEra := z - era * 146097
  let yearOfEra := (dayOfEra - dayOfEra.fdiv 1460 + dayOfEra.fdiv 36524 - dayOfEra.fdiv 146096).fdiv 365
  let dayOfYear := dayOfEra - (365 * yearOfEra + yearOfEra.fdiv 4 - yearOfEra.fdiv 100)
  let monthFromMarch := (5 * dayOfYear + 2).fdiv 153
  let day := dayOfYear - (153 * monthFromMarch + 2).fdiv 5 + 1
  let month := if monthFromMarch < 10 then monthFromMarch + 3 else monthFromMarch - 9
  let year := yearOfEra + era * 400 + (if month ≤ 2 then 1 else 0)
  { year, month := month.toNat, day := day.toNat
    hour := rest / 3600, minute := rest / 60 % 60, second := rest % 60
    weekday := ((days + 4).fmod 7).toNat
    yearday := (days - dayNumber year 1 1).toNat }

/-- The seconds from the beginning of 1970 to a moment whose parts may be out of their ranges. -/
def toSeconds (year month day hour minute second : Int) : Int :=
  let y := year + (month - 1).fdiv 12
  let m := (month - 1).fmod 12 + 1
  (dayNumber y m 1 + (day - 1)) * 86400 + hour * 3600 + minute * 60 + second

/-- The names of the days. -/
def dayNames : List String :=
  ["Sunday", "Monday", "Tuesday", "Wednesday", "Thursday", "Friday", "Saturday"]

/-- The names of the months. -/
def monthNames : List String :=
  ["January", "February", "March", "April", "May", "June", "July", "August", "September",
   "October", "November", "December"]

/-- A number with leading zeros. -/
def padded (width : Nat) (n : Nat) : List Char :=
  let ds := natChars n
  List.replicate (width - ds.length) '0' ++ ds

/-- A number of two places with a leading blank. -/
def blanked (n : Nat) : List Char :=
  if n < 10 then ' ' :: natChars n else natChars n

/-- The year and the number of the week that a moment lies in, where weeks begin on Mondays and the
first one of a year has its fourth of January. -/
def isoWeek (m : Moment) : Int × Nat :=
  let monday := (m.weekday + 6) % 7
  let week := ((m.yearday : Int) - monday + 10).fdiv 7
  let weeksIn (year : Int) : Int :=
    let first := ((dayNumber year 1 1 + 3).fmod 7)
    let leap := dayNumber (year + 1) 1 1 - dayNumber year 1 1 == 366
    if first == 3 || (leap && first == 2) then 53 else 52
  if week < 1 then (m.year - 1, (weeksIn (m.year - 1)).toNat)
  else if weeksIn m.year < week then (m.year + 1, 1)
  else (m.year, week.toNat)

/-- A part of a moment by the letter of its conversion. -/
def part (m : Moment) (c : Char) : List Char :=
  let dayName := (dayNames.getD m.weekday "").toList
  let monthName := (monthNames.getD (m.month - 1) "").toList
  let hour12 := if m.hour % 12 == 0 then 12 else m.hour % 12
  let time := padded 2 m.hour ++ [':'] ++ padded 2 m.minute ++ [':'] ++ padded 2 m.second
  let shortDate :=
    padded 2 m.month ++ ['/'] ++ padded 2 m.day ++ ['/'] ++ padded 2 (m.year.fmod 100).toNat
  match c with
  | 'a' => dayName.take 3
  | 'A' => dayName
  | 'b' | 'h' => monthName.take 3
  | 'B' => monthName
  | 'c' => dayName.take 3 ++ [' '] ++ monthName.take 3 ++ [' '] ++ blanked m.day ++ [' '] ++ time ++
      [' '] ++ intChars m.year
  | 'C' => padded 2 (m.year.fdiv 100).toNat
  | 'd' => padded 2 m.day
  | 'D' | 'x' => shortDate
  | 'e' => blanked m.day
  | 'F' => intChars m.year ++ ['-'] ++ padded 2 m.month ++ ['-'] ++ padded 2 m.day
  | 'g' => padded 2 ((isoWeek m).1.fmod 100).toNat
  | 'G' => intChars (isoWeek m).1
  | 'H' => padded 2 m.hour
  | 'I' => padded 2 hour12
  | 'j' => padded 3 (m.yearday + 1)
  | 'm' => padded 2 m.month
  | 'M' => padded 2 m.minute
  | 'n' => ['\n']
  | 'p' => if m.hour < 12 then ['A', 'M'] else ['P', 'M']
  | 'r' => padded 2 hour12 ++ [':'] ++ padded 2 m.minute ++ [':'] ++ padded 2 m.second ++ [' '] ++
      (if m.hour < 12 then ['A', 'M'] else ['P', 'M'])
  | 'R' => padded 2 m.hour ++ [':'] ++ padded 2 m.minute
  | 's' => intChars (toSeconds m.year m.month m.day m.hour m.minute m.second)
  | 'S' => padded 2 m.second
  | 't' => ['\t']
  | 'T' | 'X' => time
  | 'u' => natChars (if m.weekday == 0 then 7 else m.weekday)
  | 'U' => padded 2 ((m.yearday + 7 - m.weekday) / 7)
  | 'V' => padded 2 (isoWeek m).2
  | 'w' => natChars m.weekday
  | 'W' => padded 2 ((m.yearday + 7 - (m.weekday + 6) % 7) / 7)
  | 'y' => padded 2 (m.year.fmod 100).toNat
  | 'Y' => intChars m.year
  | 'z' => "+0000".toList
  | 'Z' => "GMT".toList
  | _ => ['%']

end Moment

namespace OsFn

/-- The functions under the names that programs find. -/
def all : List (String × OsFn) :=
  [("clock", .clock), ("date", .date), ("difftime", .difftime), ("execute", .execute),
   ("exit", .exit), ("getenv", .getenv), ("remove", .remove), ("rename", .rename),
   ("setlocale", .setlocale), ("time", .time), ("tmpname", .tmpname)]

/-- The letters of conversions. -/
def plainLetters : List Char := "aAbBcCdDeFgGhHIjmMnprRStTuUVwWxXyYzZ%".toList

/-- The letters of conversions after a modifier. -/
def modifiedLetters : Char → List Char
  | 'E' => "cCxXyY".toList
  | 'O' => "deHImMSuUVwWy".toList
  | _ => []

/-- A moment after a format. -/
def format (c : Call) (m : Moment) : List UInt8 → Task (List UInt8)
  | [] => return []
  | 0x25 :: rest => do
    let letter (cs : List Char) : List UInt8 := (String.ofList cs).toUTF8.data.toList
    match rest with
    | b :: r =>
      let ch := byteChar b
      if plainLetters.contains ch then
        return letter (m.part ch) ++ (← format c m r)
      match r with
      | d :: r' =>
        if (modifiedLetters ch).contains (byteChar d) then
          return letter (m.part (byteChar d)) ++ (← format c m r')
        c.failArg 1 (joinBytes [bytes "invalid conversion specifier '%", ofByteList rest, bytes "'"])
      | [] => c.failArg 1 (joinBytes [bytes "invalid conversion specifier '%", ofByteList rest, bytes "'"])
    | [] => c.failArg 1 (bytes "invalid conversion specifier '%'")
  | b :: rest => do return b :: (← format c m rest)

/-- The fields of a moment. -/
def fields (m : Moment) : List (String × Value) :=
  [("year", .ofInt m.year), ("month", .ofNat m.month), ("day", .ofNat m.day),
   ("hour", .ofNat m.hour), ("min", .ofNat m.minute), ("sec", .ofNat m.second),
   ("yday", .ofNat (m.yearday + 1)), ("wday", .ofNat (m.weekday + 1)), ("isdst", .bool false)]

/-- An integer field of a moment in a table. -/
def field (c : Call) (t : Value) (name : String) (default : Option Int) : Task Int := do
  let v ← index none t (.text name) none
  match toInt? v with
  | some n =>
    if n.toInt < -2147483648 + 1900 || 2147483647 + 1900 < n.toInt then
      c.fail s!"field '{name}' is out-of-bound"
    return n.toInt
  | none =>
    if !v.isNil then c.fail s!"field '{name}' is not an integer"
    match default with
    | some d => return d
    | none => c.fail s!"field '{name}' missing in date table"

/-- The results of an operation on a file that does not exist. -/
def missing (name : ByteArray) : List Value :=
  let text := bytes "No such file or directory"
  [.nil, .str (if name.isEmpty then text else joinBytes [name, bytes ": ", text]), .int 2]

/-- The first moment that has no year of 32 bits. -/
def timeLimit : Int := 67768036191676800

/-- Runs a function. -/
def run (f : OsFn) (c : Call) : Task (List Value) := do
  match f with
  | .clock => return [.float (← ask .clock)]
  | .date =>
    let pattern ← c.stringOr 1 (bytes "%c")
    let t : Int ← if c.lacks 2 then ask .now else c.int 2
    let pattern := pattern.data.toList
    let pattern := if pattern.head? == some 0x21 then pattern.drop 1 else pattern
    if timeLimit ≤ t || t < -timeLimit then
      c.fail "date result cannot be represented in this installation"
    let m := Moment.ofSeconds t
    match pattern with
    | 0x2A :: 0x74 :: _ =>
      return [← newTable (Table.ofFields ((fields m).map fun f => (.text f.1, f.2)))]
    | _ => return [.str (ofByteList (← format c m pattern))]
  | .difftime =>
    let a ← c.int 1
    let b ← c.int 2
    return [.float (floatOfInt (a - b))]
  | .execute =>
    if c.lacks 1 then return [.bool false]
    let _ ← c.string 1
    return [.nil, .text "exit", .int 127]
  | .exit =>
    let code ← match c.arg 1 with
      | .bool b => pure (if b then 0 else 1)
      | _ => c.intOr 1 0
    ask (.exit code)
    return []
  | .getenv =>
    let name ← c.string 1
    match ← ask (.variable_ (Text.Utf8.decodeBytes name)) with
    | some v => return [.str v]
    | none => return [.nil]
  | .remove => return missing (← c.string 1)
  | .rename =>
    let _ ← c.string 1
    let _ ← c.string 2
    return missing ByteArray.empty
  | .setlocale =>
    let name ← c.stringOr 1 (bytes "C")
    let _ ← c.choice 2 (some "all") ["all", "collate", "ctype", "monetary", "numeric", "time"]
    if name.isEmpty || bytesEq name (bytes "C") || bytesEq name (bytes "POSIX") then
      return [.text "C"]
    return [.nil]
  | .time =>
    if c.lacks 1 then return [.ofInt (← ask .now)]
    let id ← c.table 1
    let t : Value := .table id
    let year ← field c t "year" none
    let month ← field c t "month" none
    let day ← field c t "day" none
    let hour ← field c t "hour" (some 12)
    let minute ← field c t "min" (some 0)
    let second ← field c t "sec" (some 0)
    let s := Moment.toSeconds year month day hour minute second
    let m := Moment.ofSeconds s
    update fun mem => mem.modifyTable id fun t =>
      (fields m).foldl (fun t f => t.setText f.1 f.2) t
    return [.ofInt s]
  | .tmpname => return [.text "/tmp/lua_XXXXXX"]

end OsFn

end LuaSession.Lua
