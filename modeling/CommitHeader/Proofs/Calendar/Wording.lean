import CommitHeader.Proofs.Calendar.Specifier
import CommitHeader.Proofs.Text.Decimal
import Mathlib

/-!
# What specifiers say

Every specifier but the lenient offset has a text at every time. Here the texts are told by the
spelling alone: numbers in decimal, filled up on the left, names by their words, and the specifiers
that stand for several by what they put together. What a pattern writes is this, item by item.
-/

namespace CommitHeader.Calendar.Wording

open Text (Fill)

/-! ## Numbers -/

/-- A number in decimal behind a sign. Zeros fill it up between the sign and the digits, and spaces
in front of the sign. -/
def numeral (fill : Fill) (places : Nat) (sign : List Char) (size : Nat) : List Char :=
  let digits := (toString size).toList
  match fill with
  | .none => sign ++ digits
  | .zeros => sign ++ digits.leftpad (places - sign.length) '0'
  | .spaces => (sign ++ digits).leftpad places ' '

/-- A number in two places. From a hundred on, which only centuries reach, the first of the two is
the character that lies as far behind the zero as there are tens. -/
def two (fill : Fill) (n : Nat) : List Char :=
  if n < 100 then numeral fill 2 [] n else [Char.ofNat (48 + n / 10), Char.ofNat (48 + n % 10)]

/-- A year in four places, or in five with a sign where four do not hold it. -/
def year (fill : Fill) (n : Int) : List Char :=
  if 0 ≤ n ∧ n ≤ 9999 then numeral fill 4 [] n.natAbs
  else numeral fill 5 [if n < 0 then '-' else '+'] n.natAbs

/-- The numeric specifiers: the letter, how the number is filled up without a modifier, and what is
said under a way of filling it up. -/
def numbers : List (Char × Fill × (Fill → LocalTime → List Char)) :=
  [('Y', .zeros, fun fill t => year fill t.date.year),
    ('C', .zeros, fun fill t => two fill (t.date.year / 100 % 256).toNat),
    ('y', .zeros, fun fill t => two fill (t.date.year % 100).toNat),
    ('G', .zeros, fun fill t => year fill t.date.weekYear),
    ('g', .zeros, fun fill t => two fill (t.date.weekYear % 100).toNat),
    ('q', .none, fun _ t => numeral .none 1 [] ((t.date.month - 1) / 3 + 1)),
    ('m', .zeros, fun fill t => two fill t.date.month),
    ('d', .zeros, fun fill t => two fill t.date.day),
    ('e', .spaces, fun fill t => two fill t.date.day),
    ('j', .zeros, fun fill t => numeral fill 3 [] t.date.dayOfYear),
    ('U', .zeros, fun fill t => two fill ((t.date.dayOfYear + 6 - (t.date.weekday + 1) % 7) / 7)),
    ('W', .zeros, fun fill t => two fill ((t.date.dayOfYear + 6 - t.date.weekday) / 7)),
    ('V', .zeros, fun fill t => two fill t.date.week),
    ('u', .none, fun _ t => numeral .none 1 [] (t.date.weekday + 1)),
    ('w', .none, fun _ t => numeral .none 1 [] ((t.date.weekday + 1) % 7)),
    ('H', .zeros, fun fill t => two fill t.hour),
    ('k', .spaces, fun fill t => two fill t.hour),
    ('I', .zeros, fun fill t => two fill ((t.hour + 11) % 12 + 1)),
    ('l', .spaces, fun fill t => two fill ((t.hour + 11) % 12 + 1)),
    ('M', .zeros, fun fill t => two fill t.minute),
    ('S', .zeros, fun fill t => two fill t.second),
    ('f', .zeros, fun fill t => numeral fill 9 [] t.fraction),
    ('s', .none, fun fill t =>
      numeral fill 9 (if t.unixSeconds < 0 then ['-'] else []) t.unixSeconds.natAbs)]

/-! ## Words -/

def weekday (t : LocalTime) : List Char :=
  (["Monday", "Tuesday", "Wednesday", "Thursday", "Friday", "Saturday", "Sunday"].getD
    t.date.weekday "").toList

def month (t : LocalTime) : List Char :=
  (["January", "February", "March", "April", "May", "June", "July", "August", "September",
    "October", "November", "December"].getD (t.date.month - 1) "").toList

/-- The specifiers that stand for a word, by their letter. -/
def words : List (Char × (LocalTime → List Char)) :=
  [('A', weekday), ('a', fun t => (weekday t).take 3), ('B', month),
    ('b', fun t => (month t).take 3), ('h', fun t => (month t).take 3),
    ('p', fun t => if 12 ≤ t.hour then ['P', 'M'] else ['A', 'M']),
    ('P', fun t => if 12 ≤ t.hour then ['p', 'm'] else ['a', 'm'])]

/-! ## Several at once -/

/-- What a letter says as a specifier, or the character itself if it is none. -/
def letter (t : LocalTime) (c : Char) : List Char :=
  match numbers.lookup c with
  | some (fill, text) => text fill t
  | none =>
      match words.lookup c with
      | some text => text t
      | none => [c]

/-- What the letters of a template say, and what stands between them. -/
def template (s : String) (t : LocalTime) : List Char :=
  s.toList.flatMap (letter t)

/-- The digits of the fraction of a second as far as they go, in groups of three, behind a point. -/
def fraction (t : LocalTime) : List Char :=
  if t.fraction = 0 then []
  else if t.fraction % 1000000 = 0 then '.' :: numeral .zeros 3 [] (t.fraction / 1000000)
  else if t.fraction % 1000 = 0 then '.' :: numeral .zeros 6 [] (t.fraction / 1000)
  else '.' :: numeral .zeros 9 [] t.fraction

/-- An offset by its sign and by its hours and minutes, or by its hours, minutes and seconds, with
something in between. -/
def offset (between : List Char) (parts : List Nat) (t : LocalTime) : List Char :=
  (if t.offset < 0 then '-' else '+') :: between.intercalate (parts.map (two .zeros))

/-- The hours and the minutes of an offset rounded to minutes, half of one upwards. -/
def roundedParts (t : LocalTime) : List Nat :=
  [(t.offset.natAbs + 30) / 60 / 60, (t.offset.natAbs + 30) / 60 % 60]

def minuteParts (t : LocalTime) : List Nat :=
  [t.offset.natAbs / 3600, t.offset.natAbs / 60 % 60]

def secondParts (t : LocalTime) : List Nat :=
  minuteParts t ++ [t.offset.natAbs % 60]

/-- Date, time and offset as a mail header has them. -/
def mail (t : LocalTime) : List Char :=
  template "a, " t ++ numeral .none 1 [] t.date.day ++ template " b Y H:M:S " t ++
    offset [] (roundedParts t) t

/-- The other specifiers. -/
def others : List (List Char × (LocalTime → List Char)) :=
  [("D".toList, template "m/d/y"), ("x".toList, template "m/d/y"),
    ("F".toList, template "Y-m-d"), ("v".toList, template "e-b-Y"),
    ("R".toList, template "H:M"), ("T".toList, template "H:M:S"), ("X".toList, template "H:M:S"),
    ("r".toList, template "I:M:S p"), ("c".toList, template "a b e H:M:S Y"),
    ("+".toList, fun t => template "Y-m-d" t ++ ['T'] ++ template "H:M:S" t ++ fraction t ++
      offset [':'] (roundedParts t) t),
    (".f".toList, fraction),
    (".3f".toList, fun t => '.' :: numeral .zeros 3 [] (t.fraction / 1000000)),
    (".6f".toList, fun t => '.' :: numeral .zeros 6 [] (t.fraction / 1000)),
    (".9f".toList, fun t => '.' :: numeral .zeros 9 [] t.fraction),
    ("3f".toList, fun t => numeral .zeros 3 [] (t.fraction / 1000000)),
    ("6f".toList, fun t => numeral .zeros 6 [] (t.fraction / 1000)),
    ("9f".toList, fun t => numeral .zeros 9 [] t.fraction),
    ("z".toList, fun t => offset [] (roundedParts t) t),
    (":z".toList, fun t => offset [':'] (roundedParts t) t),
    ("::z".toList, fun t => offset [':'] (secondParts t) t),
    (":::z".toList, fun t => offset [] [t.offset.natAbs / 3600] t),
    ("Z".toList, fun t => offset [':']
      (if t.offset.natAbs % 60 = 0 then minuteParts t else secondParts t) t),
    ("%".toList, fun _ => ['%']), ("n".toList, fun _ => ['\n']), ("t".toList, fun _ => ['\t'])]

/-! ## Spellings -/

/-- The modifiers, and how they fill a number up. -/
def modifiers : List (Char × Fill) :=
  [('-', .none), ('_', .spaces), ('0', .zeros)]

/-- What may follow a percent sign and has a text at every time, and that text: the letter of a
number, perhaps behind a modifier, the letter of a word, or another spelling. -/
inductive Says : List Char → (LocalTime → List Char) → Prop
  | number {c : Char} {fill : Fill} {text : Fill → LocalTime → List Char}
      (h : (c, fill, text) ∈ numbers) : Says [c] (text fill)
  | modified {m c : Char} {fill own : Fill} {text : Fill → LocalTime → List Char}
      (hm : (m, fill) ∈ modifiers) (h : (c, own, text) ∈ numbers) : Says [m, c] (text fill)
  | word {c : Char} {text : LocalTime → List Char} (h : (c, text) ∈ words) : Says [c] text
  | other {spelling : List Char} {text : LocalTime → List Char}
      (h : (spelling, text) ∈ others) : Says spelling text

/-! ## What patterns write -/

section
open Text.Decimal (digits zeroFilled twoPlaces sign)

theorem toList_toString (n : Nat) : (toString n).toList = digits n :=
  String.toList_ofList

theorem numeral_none (places : Nat) (sign : List Char) (n : Nat) :
    numeral .none places sign n = sign ++ digits n := by
  rw [numeral, toList_toString]

theorem numeral_zeros (places : Nat) (sign : List Char) (n : Nat) :
    numeral .zeros places sign n = sign ++ zeroFilled (places - sign.length) n := by
  rw [numeral, toList_toString]
  rfl

theorem write_eq_numeral (fill : Fill) (places : Nat) (plus : Bool) (n : Int) :
    Text.Decimal.write fill places plus n = numeral fill places (sign plus n) n.natAbs := by
  unfold numeral
  rw [toList_toString]
  cases fill with
  | none => rfl
  | zeros =>
      rw [Text.Decimal.write_zeros]
      rfl
  | spaces =>
      simp only [List.leftpad, List.length_append]
      rfl

theorem twoPlaces_eq_two (fill : Fill) (n : Nat) : twoPlaces fill n = two fill n := by
  unfold two
  split_ifs with h
  · revert n
    cases fill <;> decide +kernel
  · have htens : n / 10 ≠ 0 := by omega
    simp only [twoPlaces, if_neg htens]
    rfl

theorem writeYear_eq_year (fill : Fill) (n : Int) :
    NumberField.writeYear fill n = year fill n := by
  unfold NumberField.writeYear year
  split_ifs with h h'
  · rw [write_eq_numeral, Text.Decimal.sign_false_of_nonneg h.1]
  · rw [write_eq_numeral, sign, if_pos h']
  · rw [write_eq_numeral, sign, if_neg h', if_pos rfl]

theorem hour12_eq (t : LocalTime) : t.hour12 = (t.hour + 11) % 12 + 1 := by
  unfold LocalTime.hour12
  split_ifs <;> omega

/-- The numeric specifiers are the ones that patterns know, and say what these write. -/
theorem numbers_eq :
    numbers = NumberField.specifiers.map fun (c, field, fill) =>
      (c, fill, fun fill t => field.write fill t) := by
  simp only [numbers, NumberField.specifiers, List.map_cons, List.map_nil, NumberField.write,
    twoPlaces_eq_two, writeYear_eq_year, hour12_eq, numeral_none, write_eq_numeral, List.nil_append]
  rfl

theorem write?_literal (t : LocalTime) (c : Char) : (Item.literal c).write? t = some [c] :=
  rfl

theorem write?_word (t : LocalTime) :
    Item.weekday.write? t = some (weekday t) ∧
    Item.shortWeekday.write? t = some ((weekday t).take 3) ∧
    Item.monthName.write? t = some (month t) ∧
    Item.shortMonthName.write? t = some ((month t).take 3) ∧
    Item.meridiem.write? t = some (if 12 ≤ t.hour then ['P', 'M'] else ['A', 'M']) ∧
    Item.lowerMeridiem.write? t = some (if 12 ≤ t.hour then ['p', 'm'] else ['a', 'm']) := by
  refine ⟨rfl, rfl, rfl, rfl, ?_, ?_⟩ <;> simp [Item.write?, LocalTime.isAfternoon]

theorem writeFraction_shortest (t : LocalTime) :
    Item.writeFraction .shortest t.fraction = fraction t := by
  simp only [Item.writeFraction, fraction, numeral_zeros]
  rfl

theorem write?_fraction_shortest (t : LocalTime) :
    (Item.fraction .shortest).write? t = some (fraction t) :=
  congrArg some (writeFraction_shortest t)

theorem write?_fraction_digits (t : LocalTime) (count : Nat) (point : Bool) :
    (Item.fraction (.digits count point)).write? t =
      some ((if point then ['.'] else []) ++
        numeral .zeros count [] (t.fraction / Nat.pow 10 (9 - count))) := by
  rw [numeral_zeros]
  rfl

theorem offsetForm_write (form : OffsetForm) (t : LocalTime) :
    form.write t.offset =
      match form with
      | .compact => offset [] (roundedParts t) t
      | .minutes => offset [':'] (roundedParts t) t
      | .seconds => offset [':'] (secondParts t) t
      | .hours => offset [] [t.offset.natAbs / 3600] t
      | .name =>
          offset [':'] (if t.offset.natAbs % 60 = 0 then minuteParts t else secondParts t) t := by
  cases form with
  | name =>
      simp only [OffsetForm.write, twoPlaces_eq_two]
      by_cases h : t.offset.natAbs % 60 = 0 <;>
        simp [h, offset, minuteParts, secondParts, List.intercalate]
  | _ =>
      simp [OffsetForm.write, twoPlaces_eq_two, offset, roundedParts, minuteParts, secondParts,
        List.intercalate]

theorem write?_offset (t : LocalTime) (form : OffsetForm) :
    (Item.offset form).write? t = some (form.write t.offset) :=
  rfl

theorem writeItems?_singleton (t : LocalTime) (item : Item) :
    Pattern.writeItems? t [item] = item.write? t := by
  cases h : item.write? t <;> simp [Pattern.writeItems?, h]

/-- The items of several numbers and words in a row write what a template says. -/
theorem writeItems?_template (t : LocalTime) :
    Pattern.writeItems? t Item.slashDate = some (template "m/d/y" t) ∧
    Pattern.writeItems? t [.two .year, .literal '-', .two .month, .literal '-', .two .day] =
      some (template "Y-m-d" t) ∧
    Pattern.writeItems? t
      [.number .day .spaces, .literal '-', .shortMonthName, .literal '-', .two .year] =
      some (template "e-b-Y" t) ∧
    Pattern.writeItems? t [.two .hour, .literal ':', .two .minute] = some (template "H:M" t) ∧
    Pattern.writeItems? t (Item.clock .hour) = some (template "H:M:S" t) ∧
    Pattern.writeItems? t (Item.clock .hour12 ++ [.literal ' ', .meridiem]) =
      some (template "I:M:S p" t) ∧
    Pattern.writeItems? t (.shortWeekday :: .literal ' ' :: .shortMonthName :: .literal ' ' ::
      .number .day .spaces :: .literal ' ' :: (Item.clock .hour ++ [.literal ' ', .two .year])) =
      some (template "a b e H:M:S Y" t) := by
  refine ⟨?_, ?_, ?_, ?_, ?_, ?_, ?_⟩
  all_goals
    simp only [Item.slashDate, Item.clock, Item.two, Pattern.writeItems?, Item.write?,
      NumberField.write, twoPlaces_eq_two, writeYear_eq_year, hour12_eq, LocalTime.isAfternoon,
      decide_eq_true_eq, List.cons_append, List.nil_append]
    rfl

theorem write?_internetDate (t : LocalTime) :
    Item.internetDate.write? t = some (template "Y-m-d" t ++ 'T' :: (template "H:M:S" t ++
      (fraction t ++ offset [':'] (roundedParts t) t))) := by
  simp only [Item.write?, NumberField.write, twoPlaces_eq_two, writeYear_eq_year,
    writeFraction_shortest, offsetForm_write]
  simp [template, letter, numbers, words, List.lookup]

/-- The words and the other spellings are the specifiers that patterns know beside the numbers, save
the lenient offset, and say what these write. -/
theorem words_append_others_eq :
    words.map (fun (c, text) => ([c], fun t => some (text t))) ++
      others.map (fun (spelling, text) => (spelling, fun t => some (text t))) =
    (Item.specifiers.filter fun entry => entry.1 ≠ ['#', 'z']).map fun (spelling, items) =>
      (spelling, fun t => Pattern.writeItems? t items) := by
  simp [words, others, Item.specifiers, writeItems?_singleton, write?_literal, write?_word,
    write?_fraction_shortest, write?_fraction_digits, write?_offset, offsetForm_write,
    writeItems?_template, write?_internetDate]

theorem mem_modifiers_iff {m : Char} {fill : Fill} :
    (m, fill) ∈ modifiers ↔ fillOfModifier? m = some fill := by
  unfold modifiers fillOfModifier?
  constructor
  · intro h
    simp only [List.mem_cons, Prod.mk.injEq, List.not_mem_nil, or_false] at h
    rcases h with ⟨rfl, rfl⟩ | ⟨rfl, rfl⟩ | ⟨rfl, rfl⟩ <;> rfl
  · intro h
    split at h <;> cases h <;> decide

theorem mem_numbers_iff {c : Char} {fill : Fill} {text : Fill → LocalTime → List Char} :
    (c, fill, text) ∈ numbers ↔
      ∃ field, (c, field, fill) ∈ NumberField.specifiers ∧ text = field.write := by
  rw [numbers_eq, List.mem_map]
  constructor
  · rintro ⟨⟨c, field, fill⟩, hmem, h⟩
    cases h
    exact ⟨field, hmem, rfl⟩
  · rintro ⟨field, hmem, rfl⟩
    exact ⟨_, hmem, rfl⟩

/-- What a spelling says is what its items write. -/
theorem Says.exists_items {spelling : List Char} {text : LocalTime → List Char}
    (h : Says spelling text) :
    ∃ items, Item.IsSpecifier spelling items ∧
      ∀ t, Pattern.writeItems? t items = some (text t) := by
  have hword {entry : List Char × (LocalTime → Option (List Char))}
      (hentry : entry ∈ words.map (fun (c, text) => ([c], fun t => some (text t))) ++
        others.map (fun (spelling, text) => (spelling, fun t => some (text t)))) :
      ∃ items, Item.IsSpecifier entry.1 items ∧
        ∀ t, Pattern.writeItems? t items = entry.2 t := by
    rw [words_append_others_eq, List.mem_map] at hentry
    obtain ⟨⟨spelling, items⟩, hmem, rfl⟩ := hentry
    exact ⟨items, .other (List.mem_of_mem_filter hmem), fun _ => rfl⟩
  cases h with
  | number h =>
      obtain ⟨field, hmem, rfl⟩ := mem_numbers_iff.mp h
      exact ⟨_, .number hmem, fun t => writeItems?_singleton t _⟩
  | modified hm h =>
      obtain ⟨field, hmem, rfl⟩ := mem_numbers_iff.mp h
      exact ⟨_, .modified (mem_modifiers_iff.mp hm) hmem, fun t => writeItems?_singleton t _⟩
  | word h => exact hword (List.mem_append_left _ (List.mem_map_of_mem h))
  | other h => exact hword (List.mem_append_right _ (List.mem_map_of_mem h))

/-- Every specifier but the lenient offset says something. -/
theorem exists_text {spelling : List Char} {items : List Item}
    (h : Item.IsSpecifier spelling items) (hlenient : spelling ≠ ['#', 'z']) :
    ∃ text, Says spelling text := by
  cases h with
  | number h => exact ⟨_, .number (mem_numbers_iff.mpr ⟨_, h, rfl⟩)⟩
  | modified hm h =>
      exact ⟨_, .modified (mem_modifiers_iff.mpr hm) (mem_numbers_iff.mpr ⟨_, h, rfl⟩)⟩
  | other h =>
      have hmem : (spelling, fun t => Pattern.writeItems? t items) ∈
          words.map (fun (c, text) => ([c], fun t => some (text t))) ++
            others.map (fun (spelling, text) => (spelling, fun t => some (text t))) := by
        rw [words_append_others_eq, List.mem_map]
        exact ⟨_, List.mem_filter.mpr ⟨h, decide_eq_true hlenient⟩, rfl⟩
      rw [List.mem_append, List.mem_map, List.mem_map] at hmem
      obtain ⟨⟨c, text⟩, hentry, heq⟩ | ⟨⟨spelling, text⟩, hentry, heq⟩ := hmem
      · cases congrArg Prod.fst heq
        exact ⟨text, .word hentry⟩
      · cases congrArg Prod.fst heq
        exact ⟨text, .other hentry⟩

/-- A spelling says one thing only. -/
theorem Says.unique {spelling : List Char} {text other : LocalTime → List Char}
    (h : Says spelling text) (hother : Says spelling other) : text = other := by
  obtain ⟨items, hitems, hwrite⟩ := h.exists_items
  obtain ⟨items', hitems', hwrite'⟩ := hother.exists_items
  have hread := hitems.read?_append []
  rw [hitems'.read?_append []] at hread
  cases hread
  funext t
  exact Option.some.inj ((hwrite t).symm.trans (hwrite' t))

end

end CommitHeader.Calendar.Wording
