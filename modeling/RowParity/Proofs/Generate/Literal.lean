import RowParity.Generate.Literal
import RowParity.Proofs.Number.Finite
import RowParity.Proofs.Number.Numeral
import RowParity.Proofs.Random.Range
import RowParity.Proofs.Sql.Items

/-!
# Complete literals

What a literal of each semantic type looks like, independently of how it is generated
(`IsLiteralOf`). Every generated literal is one of its type, for every random source
(`literalOf_isLiteralOf`), and every such literal can stand in a list (`IsLiteralOf.isItem`).
-/

namespace RowParity.Generate

open RowParity.Number RowParity.Random

/-! ## Forms -/

/-- A whole number of the range, with a minus if it is negative. -/
def IsWhole (low high : Int) (cs : List Char) : Prop :=
  ∃ n, readWhole? cs = some n ∧ low ≤ n ∧ n ≤ high

/-- At most a minus, digits, a point and a set number of digits. -/
def IsFixed (places : Nat) (cs : List Char) : Prop :=
  ∃ sign whole fraction, cs = sign ++ whole ++ '.' :: fraction ∧
    (sign = [] ∨ sign = ['-']) ∧ IsNumeral whole ∧ fraction.length = places ∧
    ∀ c ∈ fraction, c.isDigit = true

/-- A quoted string with a value of the kind. -/
def IsQuoted (kind : List Char → Prop) (cs : List Char) : Prop :=
  ∃ value, Sql.readQuoted? '\'' cs = some (value, []) ∧ kind value

/-- A keyword, a blank and a quoted string with a value of the kind. -/
def IsMarked (keyword : String) (kind : List Char → Prop) (cs : List Char) : Prop :=
  ∃ quoted, cs = keyword.toList ++ ' ' :: quoted ∧ IsQuoted kind quoted

/-- A short text over the alphabet of random strings. -/
def IsShort (cs : List Char) : Prop :=
  cs.length ≤ maxStringLength ∧ ∀ c ∈ cs, c ∈ alphabet

/-- As many digits as the width, for a number of the range. -/
def IsPart (width low high : Nat) (cs : List Char) : Prop :=
  cs.length = width ∧ ∃ n, readNat? cs = some n ∧ low ≤ n ∧ n ≤ high

/-- A day of the years 2000 to 2025 that every month has. -/
def IsDay (cs : List Char) : Prop :=
  ∃ year month day, cs = year ++ '-' :: month ++ '-' :: day ∧
    IsPart 4 2000 2025 year ∧ IsPart 2 1 12 month ∧ IsPart 2 1 28 day

def IsClock (cs : List Char) : Prop :=
  ∃ hour minute second, cs = hour ++ ':' :: minute ++ ':' :: second ∧
    IsPart 2 0 23 hour ∧ IsPart 2 0 59 minute ∧ IsPart 2 0 59 second

def IsMoment (cs : List Char) : Prop :=
  ∃ day clock, cs = day ++ ' ' :: clock ∧ IsDay day ∧ IsClock clock

/-- A complete literal of the type. There is none but `NULL` for large objects. -/
def IsLiteralOf : SemanticType → List Char → Prop
  | .integer, cs => IsWhole (-2147483648) 2147483647 cs
  | .smallInt, cs => IsWhole (-32768) 32767 cs
  | .bigInt, cs => IsWhole (-1000000) 1000000 cs
  | .double, cs | .float, cs | .real, cs => IsFixed 6 cs
  | .decimal, cs | .numeric, cs => IsFixed 2 cs
  | .varchar, cs | .char, cs => IsQuoted IsShort cs
  | .date, cs => IsMarked "DATE" IsDay cs
  | .time, cs => IsMarked "TIME" IsClock cs
  | .timestamp, cs => IsMarked "TIMESTAMP" IsMoment cs
  | .boolean, cs => cs = "TRUE".toList ∨ cs = "FALSE".toList
  | .blob, cs | .clob, cs => cs = "NULL".toList

/-- A constant that fits no type in particular: a quoted string or a 32-bit number. -/
def IsConstant (cs : List Char) : Prop :=
  IsQuoted IsShort cs ∨ IsWhole (-2147483648) 2147483647 cs

/-! ## Drawn parts -/

theorem isWhole_toString {n low high : Int} (hlow : low ≤ n) (hhigh : n ≤ high) :
    IsWhole low high (toString n).toList :=
  ⟨n, readWhole?_toString n, hlow, hhigh⟩

theorem isWhole_int32 (source : Source) :
    IsWhole (-2147483648) 2147483647 (toString (int32 source).1).toList := by
  obtain ⟨hlow, hhigh⟩ := int32_mem source
  have hhalf : (Width.narrow.half : Int) = 2147483648 := rfl
  exact isWhole_toString (by omega) (by omega)

theorem isQuoted_literal {s : String} {kind : List Char → Prop} (h : kind s.toList) :
    IsQuoted kind (Sql.literal s).toList := by
  have hend : ([] : List Char).head? ≠ some '\'' := by simp
  have hread := Sql.readQuoted?_enclosed s.toList hend
  rw [List.append_nil] at hread
  rw [Sql.literal, String.toList_ofList]
  exact ⟨s.toList, hread, h⟩

/-- A keyword and quotes around a text that has no quotes itself. -/
theorem isMarked_text {keyword opening text : String} {kind : List Char → Prop}
    (hopening : opening.toList = keyword.toList ++ [' ', '\'']) (hquote : '\'' ∉ text.toList)
    (h : kind text.toList) : IsMarked keyword kind (opening ++ text ++ "'").toList := by
  have hquoted := isQuoted_literal h
  rw [Sql.literal, String.toList_ofList, Sql.enclosed, Sql.doubled_eq_self hquote] at hquoted
  refine ⟨_, ?_, hquoted⟩
  have hmark : "'".toList = ['\''] := rfl
  rw [String.toList_append, String.toList_append, hopening, hmark]
  simp

theorem naturalIn_mem {low high : Nat} (h : low ≤ high) (hhigh : high < 2147483648)
    (source : Source) :
    low ≤ (naturalIn low high source).1 ∧ (naturalIn low high source).1 ≤ high := by
  have hhalf : (Width.narrow.half : Int) = 2147483648 := rfl
  have hlow : Width.narrow.Holds low := by unfold Width.Holds; omega
  have hhigh' : Width.narrow.Holds high := by unfold Width.Holds; omega
  have hmem := int32In_mem hlow hhigh' source
  have hnatural : (naturalIn low high source).1 = (int32In low high source).1.toNat := rfl
  omega

theorem isPart_padded {width low high n : Nat} (hwidth : 0 < width) (hhigh : high < tenTo width)
    (h : low ≤ n ∧ n ≤ high) : IsPart width low high (padded width n) :=
  ⟨length_padded hwidth (Nat.lt_of_le_of_lt h.2 hhigh), n, readNat?_padded width n, h⟩

theorem ofParts?_of_le {year month day : Nat} (hmonth : 1 ≤ month ∧ month ≤ 12)
    (hday : 1 ≤ day ∧ day ≤ 28) : Date.ofParts? year month day = some ⟨year, month, day⟩ := by
  have hdays : 28 ≤ Date.daysInMonth year month := by
    unfold Date.daysInMonth
    split
    · split <;> decide
    · split <;> decide
  rw [Date.ofParts?, if_pos ⟨hmonth.1, hmonth.2, hday.1, Nat.le_trans hday.2 hdays⟩]

/-- A day as it is drawn, if the calendar has it. -/
def drawnDate? : Draw (Option Date) := do
  let year ← naturalIn 2000 2025
  let month ← naturalIn 1 12
  let day ← naturalIn 1 28
  return Date.ofParts? year month day

theorem date_eq : date = do return (← drawnDate?).getD .epoch :=
  rfl

/-- The calendar has every drawn day. -/
theorem drawnDate?_spec (source : Source) :
    ∃ day, (drawnDate? source).1 = some day ∧ (2000 ≤ day.year ∧ day.year ≤ 2025) ∧
      (1 ≤ day.month ∧ day.month ≤ 12) ∧ 1 ≤ day.day ∧ day.day ≤ 28 := by
  let months := (naturalIn 2000 2025 source).2
  let days := (naturalIn 1 12 months).2
  have hyear := naturalIn_mem (by decide : 2000 ≤ 2025) (by decide) source
  have hmonth := naturalIn_mem (by decide : 1 ≤ 12) (by decide) months
  have hday := naturalIn_mem (by decide : 1 ≤ 28) (by decide) days
  have hdrawn : (drawnDate? source).1 =
      Date.ofParts? (naturalIn 2000 2025 source).1 (naturalIn 1 12 months).1
        (naturalIn 1 28 days).1 := by
    unfold drawnDate?
    rw [Draw.bind_apply, Draw.bind_apply, Draw.bind_apply]
    rfl
  exact ⟨_, hdrawn.trans (ofParts?_of_le hmonth hday), hyear, hmonth, hday⟩

theorem date_isDay (source : Source) : IsDay (date source).1.text.toList := by
  obtain ⟨day, hdrawn, hyear, hmonth, hday⟩ := drawnDate?_spec source
  have hdate : (date source).1 = (drawnDate? source).1.getD .epoch := by
    rw [date_eq, Draw.bind_apply]
    rfl
  rw [hdate, hdrawn, Option.getD_some, Date.text, String.toList_ofList]
  exact ⟨_, _, _, rfl, isPart_padded (by decide) (by decide) hyear,
    isPart_padded (by decide) (by decide) hmonth, isPart_padded (by decide) (by decide) hday⟩

theorem timeOfParts?_of_le {hour minute second : Nat} (hhour : 0 ≤ hour ∧ hour ≤ 23)
    (hminute : 0 ≤ minute ∧ minute ≤ 59) (hsecond : 0 ≤ second ∧ second ≤ 59) :
    TimeOfDay.ofParts? hour minute second = some ⟨hour, minute, second⟩ := by
  rw [TimeOfDay.ofParts?, if_pos (by omega)]

/-- A time as it is drawn, if a day has it. -/
def drawnTime? : Draw (Option TimeOfDay) := do
  let hour ← naturalIn 0 23
  let minute ← naturalIn 0 59
  let second ← naturalIn 0 59
  return TimeOfDay.ofParts? hour minute second

theorem timeOfDay_eq : timeOfDay = do return (← drawnTime?).getD .midnight :=
  rfl

/-- A day has every drawn time. -/
theorem drawnTime?_spec (source : Source) :
    ∃ time, (drawnTime? source).1 = some time ∧ (0 ≤ time.hour ∧ time.hour ≤ 23) ∧
      (0 ≤ time.minute ∧ time.minute ≤ 59) ∧ 0 ≤ time.second ∧ time.second ≤ 59 := by
  let minutes := (naturalIn 0 23 source).2
  let seconds := (naturalIn 0 59 minutes).2
  have hhour := naturalIn_mem (by decide : 0 ≤ 23) (by decide) source
  have hminute := naturalIn_mem (by decide : 0 ≤ 59) (by decide) minutes
  have hsecond := naturalIn_mem (by decide : 0 ≤ 59) (by decide) seconds
  have hdrawn : (drawnTime? source).1 =
      TimeOfDay.ofParts? (naturalIn 0 23 source).1 (naturalIn 0 59 minutes).1
        (naturalIn 0 59 seconds).1 := by
    unfold drawnTime?
    rw [Draw.bind_apply, Draw.bind_apply, Draw.bind_apply]
    rfl
  exact ⟨_, hdrawn.trans (timeOfParts?_of_le hhour hminute hsecond), hhour, hminute, hsecond⟩

theorem timeOfDay_isClock (source : Source) : IsClock (timeOfDay source).1.text.toList := by
  obtain ⟨time, hdrawn, hhour, hminute, hsecond⟩ := drawnTime?_spec source
  have htime : (timeOfDay source).1 = (drawnTime? source).1.getD .midnight := by
    rw [timeOfDay_eq, Draw.bind_apply]
    rfl
  rw [htime, hdrawn, Option.getD_some, TimeOfDay.text, String.toList_ofList]
  exact ⟨_, _, _, rfl, isPart_padded (by decide) (by decide) hhour,
    isPart_padded (by decide) (by decide) hminute, isPart_padded (by decide) (by decide) hsecond⟩

theorem literalText_isShort (source : Source) : IsShort (literalText source).1.toList := by
  obtain ⟨hlength, hmem⟩ := shortString_spec source
  have htext : (literalText source).1.toList =
      (shortString source).1.toList.take maxLiteralLength := String.toList_ofList
  rw [htext, List.take_of_length_le (Nat.le_trans hlength (by decide))]
  exact ⟨hlength, hmem⟩

/-- A drawn floating-point number is a finite number of moderate size that was moved. The fraction
has 52 bits, so it is stretched to less than `2 ^ 18` and stored with a small exponent. -/
theorem double_moved (source : Source) :
    ∃ v, (double source).1 = .ofRat (v - doubleBound) ∧ -8388608 ≤ v ∧ v ≤ 8388608 := by
  have hword := word64_lt source
  have hratio : (word64 source).1 / twoTo 12 * (2 * doubleBound) ≤ twoTo 52 * twoTo 18 := by
    have hunit : twoTo 12 = 4096 := rfl
    have hbound : doubleBound = 100000 := rfl
    have hproduct : twoTo 52 * twoTo 18 = 1180591620717411303424 := rfl
    rw [hunit, hbound, hproduct]
    omega
  obtain ⟨sign, significand, exponent, hdatum, hsignificand, hexponent⟩ :=
    Binary.datum_ofRatio (by decide) (by decide) hratio false
  obtain ⟨v, hvalue, hlow, hhigh⟩ := Binary.value_le hdatum hsignificand (by omega)
  have hdrawn : (double source).1 = .ofRat
      ((Binary.ofRatio false ((word64 source).1 / twoTo 12 * (2 * doubleBound))
        (twoTo 52) : Number.Double).value?.getD 0 - doubleBound) := by
    unfold double
    rw [Draw.bind_apply]
    rfl
  rw [hvalue, Option.getD_some] at hdrawn
  exact ⟨v, hdrawn, hlow, hhigh⟩

/-- Moving the number keeps it below `2 ^ 24`, so the result is finite. -/
theorem double_finite (source : Source) :
    ∃ negative significand exponent,
      (double source).1.datum = .finite negative significand exponent := by
  obtain ⟨v, hdouble, hlow, hhigh⟩ := double_moved source
  have hbound : doubleBound = 100000 := rfl
  have hsize : twoTo 24 = 16777216 := rfl
  have hmoved : (v - doubleBound : Rat).num.natAbs ≤ (v - doubleBound : Rat).den * twoTo 24 := by
    rw [hbound, hsize]
    refine natAbs_num_le ?_ ?_
    · grind
    · grind
  obtain ⟨negative, significand, exponent, hdatum, -⟩ :=
    Binary.datum_ofRatio (Rat.den_nz _) (by decide) hmoved (v - doubleBound < 0)
  rw [hdouble]
  exact ⟨negative, significand, exponent, hdatum⟩

theorem isFixed_double (places : Nat) (source : Source) :
    IsFixed places ((double source).1.fixed places).toList := by
  obtain ⟨negative, significand, exponent, hdatum⟩ := double_finite source
  exact Binary.fixed_shape hdatum places

/-! ## Quotes -/

theorem IsPart.quote_not_mem {width low high : Nat} {cs : List Char}
    (h : IsPart width low high cs) : '\'' ∉ cs := by
  obtain ⟨-, n, hread, -⟩ := h
  intro hmem
  exact absurd ((isNumeral_of_readNat? hread).digits _ hmem) (by decide)

theorem IsDay.quote_not_mem {cs : List Char} (h : IsDay cs) : '\'' ∉ cs := by
  obtain ⟨year, month, day, rfl, hyear, hmonth, hday⟩ := h
  simp [hyear.quote_not_mem, hmonth.quote_not_mem, hday.quote_not_mem]

theorem IsClock.quote_not_mem {cs : List Char} (h : IsClock cs) : '\'' ∉ cs := by
  obtain ⟨hour, minute, second, rfl, hhour, hminute, hsecond⟩ := h
  simp [hhour.quote_not_mem, hminute.quote_not_mem, hsecond.quote_not_mem]

theorem IsMoment.quote_not_mem {cs : List Char} (h : IsMoment cs) : '\'' ∉ cs := by
  obtain ⟨day, clock, rfl, hday, hclock⟩ := h
  simp [hday.quote_not_mem, hclock.quote_not_mem]

/-! ## Generated literals -/

theorem moment_isMoment (source : Source) :
    IsMoment ((date source).1.text ++ " " ++ (timeOfDay (date source).2).1.text).toList := by
  refine ⟨_, _, ?_, date_isDay source, timeOfDay_isClock (date source).2⟩
  rw [String.toList_append, String.toList_append]
  simp

theorem literalOf_timestamp (source : Source) :
    (literalOf .timestamp source).1 =
      "TIMESTAMP '" ++ ((date source).1.text ++ " " ++ (timeOfDay (date source).2).1.text) ++
        "'" := by
  rw [literalOf, Draw.bind_apply, Draw.bind_apply]
  simp only [String.append_assoc]
  rfl

/-- **Complete literals.** Whatever the source, the literal of a type is complete. -/
theorem literalOf_isLiteralOf (ty : SemanticType) (source : Source) :
    IsLiteralOf ty (literalOf ty source).1.toList := by
  cases ty with
  | integer => exact isWhole_int32 source
  | smallInt =>
    rw [literalOf, Draw.bind_apply]
    have hleast : Width.narrow.Holds (-32768) := by decide
    have hgreatest : Width.narrow.Holds 32767 := by decide
    obtain ⟨hlow, hhigh⟩ := int32In_mem hleast hgreatest source
    exact isWhole_toString hlow hhigh
  | bigInt =>
    rw [literalOf, Draw.bind_apply]
    have hleast : Width.wide.Holds (-bigIntBound) := by decide
    have hgreatest : Width.wide.Holds bigIntBound := by decide
    obtain ⟨hlow, hhigh⟩ := int64In_mem hleast hgreatest source
    exact isWhole_toString hlow hhigh
  | double | float | real => exact isFixed_double 6 source
  | decimal | numeric => exact isFixed_double 2 source
  | varchar | char => exact isQuoted_literal (literalText_isShort source)
  | date =>
    have hday := date_isDay source
    exact isMarked_text rfl hday.quote_not_mem hday
  | time =>
    have hclock := timeOfDay_isClock source
    exact isMarked_text rfl hclock.quote_not_mem hclock
  | timestamp =>
    have hmoment := moment_isMoment source
    rw [literalOf_timestamp]
    exact isMarked_text rfl hmoment.quote_not_mem hmoment
  | boolean =>
    have hliteral : (literalOf .boolean source).1 =
        if (coin source).1 then "TRUE" else "FALSE" := rfl
    rw [hliteral]
    by_cases htrue : (coin source).1 = true
    · rw [if_pos htrue]
      exact .inl rfl
    · rw [if_neg htrue]
      exact .inr rfl
  | blob | clob => rfl

theorem constant_isConstant (source : Source) : IsConstant (constant source).1.toList := by
  by_cases htext : (coin source).1 = true
  · have hconstant : (constant source).1 = Sql.literal (shortString (coin source).2).1 := by
      unfold constant
      rw [Draw.bind_apply, if_pos htext]
      rfl
    rw [hconstant]
    exact .inl (isQuoted_literal (shortString_spec _))
  · have hconstant : (constant source).1 = toString (int32 (coin source).2).1 := by
      unfold constant
      rw [Draw.bind_apply, if_neg htext]
      rfl
    rw [hconstant]
    exact .inr (isWhole_int32 _)

/-! ## Literals in lists -/

/-- What a number is written with. -/
def IsNumberMark (c : Char) : Prop :=
  c.isDigit = true ∨ c = '-' ∨ c = '.'

theorem isItem_number {cs : List Char} (h : ∀ c ∈ cs, IsNumberMark c) : Sql.IsItem cs := by
  have hsolid : Text.IsSolid cs := by
    intro c hc
    rcases h c hc with hdigit | rfl | rfl
    · exact Sql.isBlank_of_isWordChar (Sql.isWordChar_of_isDigit hdigit)
    · decide
    · decide
  refine Sql.isItem_idle (fun c hc => ?_) hsolid.isTight
  rcases h c hc with hdigit | rfl | rfl
  · exact Sql.isIdle_of_isWordChar (Sql.isWordChar_of_isDigit hdigit)
  · decide
  · decide

theorem IsWhole.isNumberMark {low high : Int} {cs : List Char} (h : IsWhole low high cs) :
    ∀ c ∈ cs, IsNumberMark c := by
  obtain ⟨n, hread, -⟩ := h
  obtain ⟨sign, digits, rfl, hsign, hdigits⟩ := of_readWhole? hread
  intro c hc
  rcases List.mem_append.1 hc with hc | hc
  · rcases hsign with rfl | rfl
    · cases hc
    · exact .inr (.inl (List.mem_singleton.1 hc))
  · exact .inl (hdigits.digits c hc)

theorem IsFixed.isNumberMark {places : Nat} {cs : List Char} (h : IsFixed places cs) :
    ∀ c ∈ cs, IsNumberMark c := by
  obtain ⟨sign, whole, fraction, rfl, hsign, hwhole, -, hfraction⟩ := h
  intro c hc
  rw [List.append_assoc, List.mem_append, List.mem_append, List.mem_cons] at hc
  rcases hc with hc | hc | rfl | hc
  · rcases hsign with rfl | rfl
    · cases hc
    · exact .inr (.inl (List.mem_singleton.1 hc))
  · exact .inl (hwhole.digits c hc)
  · exact .inr (.inr rfl)
  · exact .inl (hfraction c hc)

theorem IsWhole.isItem {low high : Int} {cs : List Char} (h : IsWhole low high cs) :
    Sql.IsItem cs :=
  isItem_number h.isNumberMark

theorem IsFixed.isItem {places : Nat} {cs : List Char} (h : IsFixed places cs) :
    Sql.IsItem cs :=
  isItem_number h.isNumberMark

theorem IsQuoted.isItem {kind : List Char → Prop} {cs : List Char} (h : IsQuoted kind cs) :
    Sql.IsItem cs := by
  obtain ⟨value, hread, -⟩ := h
  rw [Sql.readQuoted?_eq_some hread, List.append_nil]
  exact Sql.isItem_enclosed .single value

theorem IsMarked.isItem {keyword : String} (hkeyword : Sql.isPlain keyword.toList = true)
    {kind : List Char → Prop} {cs : List Char} (h : IsMarked keyword kind cs) : Sql.IsItem cs := by
  obtain ⟨quoted, rfl, hquoted⟩ := h
  have hne : quoted ≠ [] := by
    rintro rfl
    obtain ⟨value, hread, -⟩ := hquoted
    cases hread
  exact (Sql.isItem_plain hkeyword).append_blank hquoted.isItem
    (Sql.isPlain_isWord hkeyword).ne_nil hne

/-- Complete literals can stand in a list. -/
theorem IsLiteralOf.isItem {ty : SemanticType} {cs : List Char} (h : IsLiteralOf ty cs) :
    Sql.IsItem cs := by
  cases ty with
  | integer | smallInt | bigInt => exact IsWhole.isItem h
  | double | float | real | decimal | numeric => exact IsFixed.isItem h
  | varchar | char => exact IsQuoted.isItem h
  | date | time | timestamp => exact IsMarked.isItem (by decide) h
  | boolean =>
    rcases h with rfl | rfl
    · exact Sql.isItem_plain (by decide)
    · exact Sql.isItem_plain (by decide)
  | blob | clob =>
    cases h
    exact Sql.isItem_plain (by decide)

theorem IsConstant.isItem {cs : List Char} (h : IsConstant cs) : Sql.IsItem cs := by
  rcases h with hquoted | hwhole
  · exact hquoted.isItem
  · exact hwhole.isItem

theorem not_isWhole_null (low high : Int) : ¬IsWhole low high "NULL".toList := by
  rintro ⟨n, hread, -⟩
  cases hread

theorem not_isFixed_null (places : Nat) : ¬IsFixed places "NULL".toList := by
  rintro ⟨sign, whole, fraction, hcs, -⟩
  have hpoint : '.' ∈ "NULL".toList := by
    rw [hcs]
    simp
  exact absurd hpoint (by decide)

theorem not_isMarked_null (keyword : String) (kind : List Char → Prop) :
    ¬IsMarked keyword kind "NULL".toList := by
  rintro ⟨quoted, hcs, -⟩
  have hblank : ' ' ∈ "NULL".toList := by
    rw [hcs]
    simp
  exact absurd hblank (by decide)

/-- Only large objects have `NULL` as their literal. -/
theorem of_isLiteralOf_null {ty : SemanticType} (h : IsLiteralOf ty "NULL".toList) :
    ty = .blob ∨ ty = .clob := by
  cases ty with
  | integer | smallInt | bigInt => exact absurd h (not_isWhole_null _ _)
  | double | float | real | decimal | numeric => exact absurd h (not_isFixed_null _)
  | varchar | char =>
    obtain ⟨value, hread, -⟩ := h
    cases hread
  | date | time | timestamp => exact absurd h (not_isMarked_null _ _)
  | boolean =>
    rcases h with htrue | hfalse
    · exact absurd htrue (by decide)
    · exact absurd hfalse (by decide)
  | blob => exact .inl rfl
  | clob => exact .inr rfl

end RowParity.Generate
