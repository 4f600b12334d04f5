import CommitHeader.Calendar.Instant
import CommitHeader.Calendar.Offset
import CommitHeader.Text.Lead

/-!
# Date patterns

A pattern is text in which a percent sign opens a specifier. A specifier stands for one item or for
several; a numeric one may carry a modifier that changes how the number is filled up. A percent sign
that opens no known specifier makes the pattern invalid, and one known item, the lenient offset, can
be read in other programs but has no written form.
-/

namespace CommitHeader.Calendar

open Text (Fill)

/-- The numbers that a specifier can stand for. -/
inductive NumberField
  | year
  | century
  | yearOfCentury
  | weekYear
  | weekYearOfCentury
  | quarter
  | month
  | day
  | dayOfYear
  | weekFromSunday
  | weekFromMonday
  | week
  | weekdayFromMonday
  | weekdayFromSunday
  | hour
  | hour12
  | minute
  | second
  | nanosecond
  | unixSeconds
deriving DecidableEq

/-- How the part of a second is written. -/
inductive FractionForm
  /-- A point and 3, 6 or 9 digits, as many as it takes, or nothing for a whole second. -/
  | shortest
  /-- That many digits, with or without a point. -/
  | digits (count : Nat) (point : Bool)
deriving DecidableEq

/-- One thing that a pattern writes. -/
inductive Item
  | literal (c : Char)
  | number (field : NumberField) (fill : Fill)
  | weekday
  | shortWeekday
  | monthName
  | shortMonthName
  | meridiem
  | lowerMeridiem
  | fraction (form : FractionForm)
  | offset (form : OffsetForm)
  /-- Date, time and offset in the form of RFC 3339. -/
  | internetDate
  /-- An offset that a reader may take in several forms; it cannot be written. -/
  | lenientOffset
  /-- A percent sign that opens no known specifier. -/
  | unknown
deriving DecidableEq

namespace NumberField

/-- The numeric specifiers: a letter, the number it stands for, and how that is filled up unless a
modifier says otherwise. -/
def specifiers : List (Char × NumberField × Fill) :=
  [('Y', year, .zeros), ('C', century, .zeros), ('y', yearOfCentury, .zeros),
    ('G', weekYear, .zeros), ('g', weekYearOfCentury, .zeros), ('q', quarter, .none),
    ('m', month, .zeros), ('d', day, .zeros), ('e', day, .spaces), ('j', dayOfYear, .zeros),
    ('U', weekFromSunday, .zeros), ('W', weekFromMonday, .zeros), ('V', week, .zeros),
    ('u', weekdayFromMonday, .none), ('w', weekdayFromSunday, .none), ('H', hour, .zeros),
    ('k', hour, .spaces), ('I', hour12, .zeros), ('l', hour12, .spaces), ('M', minute, .zeros),
    ('S', second, .zeros), ('f', nanosecond, .zeros), ('s', unixSeconds, .none)]

/-- The number that a letter stands for, and how it is filled up. -/
def ofLetter? (c : Char) : Option (NumberField × Fill) :=
  specifiers.lookup c

/-- A year, in four places, or with a sign in five where four digits do not hold it. -/
def writeYear (fill : Fill) (year : Int) : List Char :=
  if 0 ≤ year ∧ year ≤ 9999 then Text.Decimal.write fill 4 false year
  else Text.Decimal.write fill 5 true year

open Text.Decimal in
/-- The text of a number at a time. The century is taken modulo 256. -/
def write (field : NumberField) (fill : Fill) (t : LocalTime) : List Char :=
  match field with
  | year => writeYear fill t.date.year
  | century => twoPlaces fill (t.date.year / 100 % 256).toNat
  | yearOfCentury => twoPlaces fill (t.date.year % 100).toNat
  | weekYear => writeYear fill t.date.weekYear
  | weekYearOfCentury => twoPlaces fill (t.date.weekYear % 100).toNat
  | quarter => digits t.date.quarter
  | month => twoPlaces fill t.date.month
  | day => twoPlaces fill t.date.day
  | dayOfYear => Text.Decimal.write fill 3 false t.date.dayOfYear
  | weekFromSunday => twoPlaces fill t.date.weekFromSunday
  | weekFromMonday => twoPlaces fill t.date.weekFromMonday
  | week => twoPlaces fill t.date.week
  | weekdayFromMonday => digits (t.date.weekday + 1)
  | weekdayFromSunday => digits t.date.weekdayFromSunday
  | hour => twoPlaces fill t.hour
  | hour12 => twoPlaces fill t.hour12
  | minute => twoPlaces fill t.minute
  | second => twoPlaces fill t.second
  | nanosecond => Text.Decimal.write fill 9 false t.fraction
  | unixSeconds => Text.Decimal.write fill 9 false t.unixSeconds

end NumberField

def fillOfModifier? : Char → Option Fill
  | '-' => some .none
  | '_' => some .spaces
  | '0' => some .zeros
  | _ => none

namespace Item

/-- A number filled up with zeros. -/
def two (field : NumberField) : Item := .number field .zeros

/-- The items of hour, minute and second with colons. -/
def clock (hours : NumberField) : List Item :=
  [two hours, .literal ':', two .minute, .literal ':', two .second]

/-- The items of month, day and year of the century with slashes. -/
def slashDate : List Item :=
  [two .month, .literal '/', two .day, .literal '/', two .yearOfCentury]

/-- The specifiers other than the numeric ones, by what follows the percent sign. None is the
beginning of another. -/
def specifiers : List (List Char × List Item) :=
  [(['A'], [.weekday]), (['a'], [.shortWeekday]), (['B'], [.monthName]),
    (['b'], [.shortMonthName]), (['h'], [.shortMonthName]), (['p'], [.meridiem]),
    (['P'], [.lowerMeridiem]), (['D'], slashDate), (['x'], slashDate),
    (['F'], [two .year, .literal '-', two .month, .literal '-', two .day]),
    (['v'],
      [.number .day .spaces, .literal '-', .shortMonthName, .literal '-', two .year]),
    (['R'], [two .hour, .literal ':', two .minute]), (['T'], clock .hour), (['X'], clock .hour),
    (['r'], clock .hour12 ++ [.literal ' ', .meridiem]),
    (['c'],
      [.shortWeekday, .literal ' ', .shortMonthName, .literal ' ', .number .day .spaces,
        .literal ' '] ++ clock .hour ++ [.literal ' ', two .year]),
    (['+'], [.internetDate]), (['.', 'f'], [.fraction .shortest]),
    (['.', '3', 'f'], [.fraction (.digits 3 true)]),
    (['.', '6', 'f'], [.fraction (.digits 6 true)]),
    (['.', '9', 'f'], [.fraction (.digits 9 true)]),
    (['3', 'f'], [.fraction (.digits 3 false)]), (['6', 'f'], [.fraction (.digits 6 false)]),
    (['9', 'f'], [.fraction (.digits 9 false)]), (['z'], [.offset .compact]),
    ([':', 'z'], [.offset .minutes]), ([':', ':', 'z'], [.offset .seconds]),
    ([':', ':', ':', 'z'], [.offset .hours]), (['#', 'z'], [.lenientOffset]),
    (['Z'], [.offset .name]), (['%'], [.literal '%']), (['n'], [.literal '\n']),
    (['t'], [.literal '\t'])]

/-- The specifier without a modifier that a text begins with, and what follows it. -/
def ofSpecifier? (cs : List Char) : Option (List Item × List Char) :=
  match cs with
  | [] => none
  | c :: rest =>
      match NumberField.ofLetter? c with
      | some (field, fill) => some ([.number field fill], rest)
      | none =>
          specifiers.findSome? fun (spelling, items) =>
            (Text.dropLead? spelling cs).map fun rest => (items, rest)

/-- The specifier that follows a percent sign, and what follows it. -/
def read? (cs : List Char) : Option (List Item × List Char) :=
  match cs with
  | [] => none
  | m :: rest =>
      match fillOfModifier? m with
      | none => ofSpecifier? cs
      | some fill =>
          match rest with
          | [] => none
          | c :: rest =>
              match NumberField.ofLetter? c with
              | some (field, _) => some ([.number field fill], rest)
              | none => none

theorem length_of_ofSpecifier? {cs rest : List Char} {items : List Item}
    (h : ofSpecifier? cs = some (items, rest)) : rest.length ≤ cs.length := by
  cases cs with
  | nil => simp [ofSpecifier?] at h
  | cons c cs =>
      simp only [ofSpecifier?] at h
      split at h
      · simp only [Option.some.injEq, Prod.mk.injEq] at h
        simp [← h.2]
      · obtain ⟨entry, -, hentry⟩ := List.exists_of_findSome?_eq_some h
        obtain ⟨rest', hdrop, heq⟩ := Option.map_eq_some_iff.mp hentry
        simp only [Prod.mk.injEq] at heq
        rw [← heq.2]
        exact Text.length_of_dropLead? hdrop

theorem length_of_read? {cs rest : List Char} {items : List Item}
    (h : read? cs = some (items, rest)) : rest.length ≤ cs.length := by
  cases cs with
  | nil => simp [read?] at h
  | cons m cs =>
      simp only [read?] at h
      split at h
      · exact length_of_ofSpecifier? h
      · cases cs with
        | nil => simp at h
        | cons c cs =>
            simp only at h
            split at h
            · simp only [Option.some.injEq, Prod.mk.injEq] at h
              simp only [← h.2, List.length_cons]
              omega
            · simp at h

def writeFraction (form : FractionForm) (nanosecond : Nat) : List Char :=
  match form with
  | .shortest =>
      if nanosecond = 0 then []
      else if nanosecond % 1000000 = 0 then
        '.' :: Text.Decimal.zeroFilled 3 (nanosecond / 1000000)
      else if nanosecond % 1000 = 0 then '.' :: Text.Decimal.zeroFilled 6 (nanosecond / 1000)
      else '.' :: Text.Decimal.zeroFilled 9 nanosecond
  | .digits count point =>
      (if point then ['.'] else []) ++
        Text.Decimal.zeroFilled count (nanosecond / Nat.pow 10 (9 - count))

/-- The text of an item at a time; nothing if it cannot be written. -/
def write? (t : LocalTime) : Item → Option (List Char)
  | .literal c => some [c]
  | .number field fill => some (field.write fill t)
  | .weekday => some (weekdayName t.date.weekday)
  | .shortWeekday => some (abbreviated (weekdayName t.date.weekday))
  | .monthName => some (Calendar.monthName t.date.month)
  | .shortMonthName => some (abbreviated (Calendar.monthName t.date.month))
  | .meridiem => some (if t.isAfternoon then ['P', 'M'] else ['A', 'M'])
  | .lowerMeridiem => some (if t.isAfternoon then ['p', 'm'] else ['a', 'm'])
  | .fraction form => some (writeFraction form t.fraction)
  | .offset form => some (form.write t.offset)
  | .internetDate =>
      let number (field : NumberField) := field.write .zeros t
      some (number .year ++ ['-'] ++ number .month ++ ['-'] ++ number .day ++ ['T'] ++
        number .hour ++ [':'] ++ number .minute ++ [':'] ++ number .second ++
        writeFraction .shortest t.fraction ++ OffsetForm.minutes.write t.offset)
  | .lenientOffset => none
  | .unknown => none

end Item

namespace Pattern

/-- The items of a pattern in order. The first percent sign that opens no known specifier ends
them. -/
def items (cs : List Char) : List Item :=
  match cs with
  | [] => []
  | c :: rest =>
      if c = '%' then
        match h : Item.read? rest with
        | some (found, after) =>
            have : after.length < rest.length + 1 :=
              Nat.lt_succ_of_le (Item.length_of_read? h)
            found ++ items after
        | none => [.unknown]
      else .literal c :: items rest
termination_by cs.length

/-- Whether every specifier of a pattern is known. -/
def isValid (pattern : String) : Bool :=
  (items pattern.toList).all fun item => item ≠ .unknown

/-- The texts of items one after another; nothing if one of them cannot be written. -/
def writeItems? (t : LocalTime) : List Item → Option (List Char)
  | [] => some []
  | item :: rest => do
      let written ← item.write? t
      let following ← writeItems? t rest
      some (written ++ following)

/-- A time as a pattern shows it; nothing if the pattern holds an item that cannot be written. -/
def write? (pattern : String) (t : LocalTime) : Option String :=
  (writeItems? t (items pattern.toList)).map String.ofList

end Pattern

end CommitHeader.Calendar
