import XsdRecords.Layout.DefaultValue
import XsdRecords.Proofs.Calendar.Checked
import XsdRecords.Proofs.Calendar.Rendering
import XsdRecords.Proofs.Calendar.Scanning

/-! # Default values that are read and written

A default value with an offset is read from a date, a time or both, followed by what stands for the
offset (`Zone`).  What a date or a time is read from does not end with what is taken for an offset,
so that a text can be cut in two in one way only.  What is written for a default value is read as
that value again: integers of every range, truth values, and dates and times with an offset or
without.  What is read may be written in another way, as a year with a sign or an offset whose hours
and minutes have signs of their own, so that the texts differ.  A string is left out, since it is
written between quotes, and so are floating point numbers, whose infinities are not written as they
are read.  Of the element types only those with an offset have their texts cut, all at the one place
where offsets are split off. -/

namespace XsdRecords.Layout

open Calendar (Date DateTime Offset Plain Time Zone plain_of_readDate plain_of_readDateTime
  plain_of_readTime scan_of_readTime split?_append zone_of_split?)
open Number (IntegerRange mem_range_of_readInteger readDecimal? readDecimal?_toString readInteger)

/-! ## Values that end with an offset -/

/-- A value and an offset stand in a text one after the other. -/
def ReadsZoned {α : Type} (read? : List Char → Option α) (text : String) (value : α)
    (offset : Offset) : Prop :=
  ∃ body zone, text.toList = body ++ zone ∧ Zone zone offset ∧ read? body = some value

/-- Where no value ends with an offset, an offset is split off exactly where it stands. -/
theorem exists_split_iff {α : Type} {read? : List Char → Option α} {P : α → Offset → Prop}
    (plain : ∀ {cs value}, read? cs = some value → cs ≠ [] ∧ Plain cs) {text : String} :
    (∃ body offset, Offset.split? text.toList = some (body, offset) ∧
      ∃ value, read? body = some value ∧ P value offset) ↔
      ∃ value offset, ReadsZoned read? text value offset ∧ P value offset := by
  constructor
  · rintro ⟨body, offset, split, value, read, holds⟩
    obtain ⟨zone, whole, stands⟩ := zone_of_split? split
    exact ⟨value, offset, ⟨body, zone, whole, stands, read⟩, holds⟩
  · rintro ⟨value, offset, ⟨body, zone, whole, stands, read⟩, holds⟩
    obtain ⟨nonempty, plain⟩ := plain read
    exact ⟨body, offset, whole ▸ split?_append nonempty plain stands, value, read, holds⟩

section Forms

variable {text : String} {value : DefaultValue}

theorem read?_dateTz_iff : DefaultValue.read? .dateTz text = some value ↔
    ∃ date offset, ReadsZoned Date.read? text date offset ∧ value = .dateTz date offset := by
  rw [← exists_split_iff plain_of_readDate]
  simp only [DefaultValue.read?, Option.bind_eq_bind, Option.bind_eq_some_iff, Prod.exists,
    Option.map_eq_some_iff, @eq_comm _ value]

theorem read?_timeTz_iff : DefaultValue.read? .timeTz text = some value ↔
    ∃ time offset, ReadsZoned Time.read? text time offset ∧ value = .timeTz time offset := by
  rw [← exists_split_iff plain_of_readTime]
  simp only [DefaultValue.read?, Option.bind_eq_bind, Option.bind_eq_some_iff, Prod.exists,
    Option.map_eq_some_iff, @eq_comm _ value]

theorem read?_datetimeTz_iff : DefaultValue.read? .datetimeTz text = some value ↔
    ∃ datetime offset, ReadsZoned DateTime.read? text datetime offset ∧
      datetime.isUniversal offset = true ∧ value = .datetimeTz datetime offset := by
  rw [← exists_split_iff plain_of_readDateTime]
  simp only [DefaultValue.read?, DefaultValue.readDatetimeTz?, Option.bind_eq_bind,
    Option.bind_eq_some_iff, Prod.exists, Option.ite_none_right_eq_some, Option.some.injEq,
    @eq_comm _ value]

end Forms

/-- A default value with an offset is read exactly where a date, a time or both stand before an offset:
nothing, `Z`, or a sign, hours up to 14, a colon and minutes up to 59.  Hours and minutes are two digits
each, or a sign of their own and a digit.  A date and time together must be a time of the calendar at
the offset too. -/
theorem defaultValue_zoned_iff (text : String) (value : DefaultValue) :
    (DefaultValue.read? .dateTz text = some value ↔
      ∃ date offset, ReadsZoned Date.read? text date offset ∧ value = .dateTz date offset) ∧
    (DefaultValue.read? .timeTz text = some value ↔
      ∃ time offset, ReadsZoned Time.read? text time offset ∧ value = .timeTz time offset) ∧
    (DefaultValue.read? .datetimeTz text = some value ↔
      ∃ datetime offset, ReadsZoned DateTime.read? text datetime offset ∧
        datetime.isUniversal offset = true ∧ value = .datetimeTz datetime offset) :=
  ⟨read?_dateTz_iff, read?_timeTz_iff, read?_datetimeTz_iff⟩

-- The hours have a sign of their own: half an hour behind universal time.
example : DefaultValue.read? .timeTz "10:30:00+-1:30" = some (.timeTz ⟨10, 30, 0, 0⟩ ⟨-1800⟩) := by
  decide +kernel

/-! ## Values without an offset -/

theorem readDecimal?_rewritten {range : IntegerRange} (zero : range.low ≤ 0 ∧ 0 ≤ range.high)
    {cs : List Char} {n : Int} (read : readDecimal? range cs = some n) :
    readDecimal? range (toString n).toList = some n := by
  unfold readDecimal? at read
  cases h : readInteger 10 range cs with
  | error fault =>
    rw [h] at read
    cases read
  | ok m =>
    rw [h] at read
    obtain rfl := Option.some.inj read
    exact readDecimal?_toString zero (mem_range_of_readInteger h zero)

theorem readDate?_rewritten {cs : List Char} {date : Date} (read : Date.read? cs = some date) :
    Date.read? date.render.toList = some date :=
  Date.read?_render (Date.isValid_of_read? read)

theorem readTime?_rewritten {cs : List Char} {time : Time} (read : Time.read? cs = some time) :
    Time.read? time.render.toList = some time :=
  have scan := scan_of_readTime read
  Time.read?_render (Time.isValid_of_scan? scan) (Time.nanosecond_lt_of_scan? scan)

theorem readDateTime?_rewritten {cs : List Char} {value : DateTime}
    (read : DateTime.read? cs = some value) : DateTime.read? value.render.toList = some value := by
  simp only [DateTime.read?, Option.bind_eq_bind, Option.bind_eq_some_iff, Prod.exists] at read
  obtain ⟨date, _, dateRead, _, _, time, timeRead, same⟩ := read
  obtain rfl := Option.some.inj same
  have scan := scan_of_readTime timeRead
  exact DateTime.read?_render (Date.isValid_of_scan? dateRead) (Time.isValid_of_scan? scan)
    (Time.nanosecond_lt_of_scan? scan)

/-! ## Values with an offset -/

/-- A value and an offset stand in what is written for both, one after the other. -/
theorem ReadsZoned.rewritten {α : Type} {read? : List Char → Option α} {text : String} {value : α}
    {offset : Offset} (zoned : ReadsZoned read? text value offset) (render : α → String)
    (again : ∀ {cs value}, read? cs = some value → read? (render value).toList = some value) :
    ReadsZoned read? (render value ++ offset.render) value offset := by
  obtain ⟨body, zone, -, stands, read⟩ := zoned
  obtain ⟨minutes, whole, less⟩ := stands.exists_minutes
  exact ⟨_, _, String.toList_append, Offset.zone_render whole less, again read⟩

/-! ## All values -/

/-- What is written for a value that was read is read as that value again, but for floating point
numbers and strings. -/
theorem defaultValue_read?_render {type : ElemType} {text : String} {value : DefaultValue}
    (read : DefaultValue.read? type text = some value) (notFloat : type ≠ .float)
    (notDouble : type ≠ .double) (notString : type ≠ .string) :
    DefaultValue.read? type value.render = some value := by
  cases type with
  | float | double | string => contradiction
  | char | short | int | int64 =>
    obtain ⟨n, number, rfl⟩ := Option.map_eq_some_iff.1 read
    simp only [DefaultValue.read?, DefaultValue.render, readDecimal?_rewritten (by decide) number,
      Option.map_some]
  | bool =>
    obtain ⟨b, -, rfl⟩ := Option.map_eq_some_iff.1 read
    cases b <;> rfl
  | datetime =>
    obtain ⟨datetime, datetimeRead, rfl⟩ := Option.map_eq_some_iff.1 read
    simp only [DefaultValue.read?, DefaultValue.render, readDateTime?_rewritten datetimeRead,
      Option.map_some]
  | date =>
    obtain ⟨date, dateRead, rfl⟩ := Option.map_eq_some_iff.1 read
    simp only [DefaultValue.read?, DefaultValue.render, readDate?_rewritten dateRead,
      Option.map_some]
  | time =>
    obtain ⟨time, timeRead, rfl⟩ := Option.map_eq_some_iff.1 read
    simp only [DefaultValue.read?, DefaultValue.render, readTime?_rewritten timeRead,
      Option.map_some]
  | dateTz =>
    obtain ⟨date, offset, zoned, rfl⟩ := read?_dateTz_iff.1 read
    rw [DefaultValue.render]
    exact read?_dateTz_iff.2 ⟨date, offset, zoned.rewritten Date.render readDate?_rewritten, rfl⟩
  | timeTz =>
    obtain ⟨time, offset, zoned, rfl⟩ := read?_timeTz_iff.1 read
    rw [DefaultValue.render]
    exact read?_timeTz_iff.2 ⟨time, offset, zoned.rewritten Time.render readTime?_rewritten, rfl⟩
  | datetimeTz =>
    obtain ⟨datetime, offset, zoned, universal, rfl⟩ := read?_datetimeTz_iff.1 read
    rw [DefaultValue.render]
    exact read?_datetimeTz_iff.2
      ⟨datetime, offset, zoned.rewritten DateTime.render readDateTime?_rewritten, universal, rfl⟩
  | _ => cases read

/-- A leap second of a year before the calendar's first, half an hour behind universal time by an
hour with a sign of its own: the text that is written is another. -/
theorem defaultValue_read?_render_leapSecond :
    DefaultValue.read? .datetimeTz " -12345-2-28T 23:59:60.5+-1:30" =
        some (.datetimeTz ⟨⟨-12345, 2, 28⟩, ⟨23, 59, 60, 500000000⟩⟩ ⟨-1800⟩) ∧
      (DefaultValue.datetimeTz ⟨⟨-12345, 2, 28⟩, ⟨23, 59, 60, 500000000⟩⟩ ⟨-1800⟩).render =
        "-12345-02-28T23:59:60.500-00:30" ∧
      DefaultValue.read? .datetimeTz
          (DefaultValue.datetimeTz ⟨⟨-12345, 2, 28⟩, ⟨23, 59, 60, 500000000⟩⟩ ⟨-1800⟩).render =
        some (.datetimeTz ⟨⟨-12345, 2, 28⟩, ⟨23, 59, 60, 500000000⟩⟩ ⟨-1800⟩) := by
  have read : DefaultValue.read? .datetimeTz " -12345-2-28T 23:59:60.5+-1:30" =
      some (.datetimeTz ⟨⟨-12345, 2, 28⟩, ⟨23, 59, 60, 500000000⟩⟩ ⟨-1800⟩) := by
    decide +kernel
  exact ⟨read, by decide +kernel,
    defaultValue_read?_render read (by decide) (by decide) (by decide)⟩

end XsdRecords.Layout

/-! ## Texts are cut without a misstep -/

namespace XsdRecords.Layout.DefaultValue

open Calendar (Date DateTime Misstep Offset Time cut exists_cut_iff splitChecked_eq zone_of_split?)
open Text (isBoundary)
open Text.Utf8 (encode)

/-- Splits an offset off a text, every step checked, and reads what is left. -/
def zonedChecked (cs : List Char) (read? : List Char → Offset → Option DefaultValue) :
    Except Misstep (Option DefaultValue) := do
  match ← Offset.splitChecked cs with
  | none => pure none
  | some (body, offset) => pure (read? body offset)

/-- Reads a value of an element type, every step checked. -/
def readChecked (type : ElemType) (text : String) : Except Misstep (Option DefaultValue) :=
  match type with
  | .datetimeTz => zonedChecked text.toList fun body offset => do
    let value ← DateTime.read? body
    if value.isUniversal offset then some (.datetimeTz value offset) else none
  | .dateTz => zonedChecked text.toList fun body offset => (Date.read? body).map (.dateTz · offset)
  | .timeTz => zonedChecked text.toList fun body offset => (Time.read? body).map (.timeTz · offset)
  | type => pure (read? type text)

theorem zonedChecked_eq (cs : List Char) (read? : List Char → Offset → Option DefaultValue) :
    zonedChecked cs read? =
      .ok ((Offset.split? cs).bind fun (body, offset) => read? body offset) := by
  rw [zonedChecked, splitChecked_eq]
  cases Offset.split? cs <;> rfl

/-- What a cut of a text needs is that both bounds are in the text, in order and not inside a
character.  Every text is read for every element type with all cuts and all offsets in bounds: the
reading that checks each of them does not fail and gives what the one without checks gives, whose
offsets are all less than a day. -/
theorem readChecked_eq_ok :
    (∀ (cs : List Char) (start stop : Nat),
      (∃ part, cut cs start stop = .ok part) ↔
        start ≤ stop ∧ isBoundary (encode cs) start = true ∧ isBoundary (encode cs) stop = true) ∧
    (∀ (type : ElemType) (text : String), readChecked type text = .ok (read? type text)) ∧
    ∀ cs : List Char,
      (Offset.split? cs).all fun split =>
        -86400 < split.2.seconds ∧ split.2.seconds < 86400 := by
  refine ⟨fun cs start stop => exists_cut_iff, fun type text => ?_, fun cs => ?_⟩
  · cases type
    case datetimeTz | dateTz | timeTz => exact zonedChecked_eq _ _
    all_goals rfl
  · rw [Option.all_eq_true]
    rintro ⟨body, offset⟩ split
    obtain ⟨zone, -, stands⟩ := zone_of_split? split
    obtain ⟨minutes, seconds, small⟩ := stands.exists_minutes
    have small : -86400 < offset.seconds ∧ offset.seconds < 86400 := by omega
    exact decide_eq_true small

end XsdRecords.Layout.DefaultValue
