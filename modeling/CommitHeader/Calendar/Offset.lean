import CommitHeader.Text.Decimal

/-!
# Written offsets

An offset from Universal Time as a sign, hours, and as many further parts as a form has. An offset
west of Greenwich keeps its minus sign even where the written parts are all zero.
-/

namespace CommitHeader.Calendar

/-- How far an offset is written out. -/
inductive OffsetForm
  /-- Hours and minutes together; seconds are rounded to the nearest minute, half of one upwards. -/
  | compact
  /-- Hours and minutes with a colon, rounded in the same way. -/
  | minutes
  /-- Hours, minutes and seconds with colons. -/
  | seconds
  /-- Hours alone, the rest cut off. -/
  | hours
  /-- Hours and minutes, and seconds only if there are any. -/
  | name
deriving DecidableEq

open Text.Decimal in
def OffsetForm.write (form : OffsetForm) (offset : Int) : List Char :=
  let sign := if offset < 0 then '-' else '+'
  let size := offset.natAbs
  let rounded := (size + 30) / 60
  let two := twoPlaces .zeros
  match form with
  | .compact => sign :: (two (rounded / 60) ++ two (rounded % 60))
  | .minutes => sign :: (two (rounded / 60) ++ [':'] ++ two (rounded % 60))
  | .seconds =>
      sign :: (two (size / 3600) ++ [':'] ++ two (size / 60 % 60) ++ [':'] ++ two (size % 60))
  | .hours => sign :: two (size / 3600)
  | .name =>
      sign :: (two (size / 3600) ++ [':'] ++ two (size / 60 % 60) ++
        if size % 60 = 0 then [] else ':' :: two (size % 60))

end CommitHeader.Calendar
