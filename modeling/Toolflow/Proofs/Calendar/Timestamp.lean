import Toolflow.Calendar.Reader
import Toolflow.Proofs.Calendar.Days
import Toolflow.Proofs.Text.Parts

/-!
Timestamps as they are written: a day alone, a day and a time, or these two with a zone. Each is
read back, by the reader that is meant for it, as a moment at its instant (`read?_text`), and
moments compare as the instants that they are at (`Moment.compare_eq`).
-/

namespace Toolflow.Calendar

open Text

/-- A time of day, with so many decimal places in the fraction of its second. -/
structure Time where
  hour : Nat
  minute : Nat
  second : Nat
  places : Nat
  fraction : Nat
  hour_lt : hour < 24
  minute_lt : minute < 60
  second_lt : second < 60
  places_le : places ≤ 9
  fraction_lt : fraction < 10 ^ places

/-- Universal time, or so many hours and minutes ahead of it or behind. -/
inductive Zone where
  | utc (letter : Char) (hl : letter = 'Z' ∨ letter = 'z')
  | offset (behind : Bool) (hours minutes : Nat) (hh : hours < 24) (hm : minutes < 60)

/-- A point in time in the notation in which it is given. -/
inductive Timestamp where
  | day (day : Day)
  | unzoned (day : Day) (separator : Char) (hs : separator = 'T' ∨ separator = ' ') (time : Time)
  | zoned (day : Day) (separator : Char) (hs : separator = 'T' ∨ separator = 't' ∨ separator = ' ')
    (time : Time) (zone : Zone)

namespace Day

def chars (d : Day) : List Char :=
  padded 4 d.year ++ '-' :: (padded 2 d.month ++ '-' :: padded 2 d.day)

/-- The first day of 1970. -/
def epoch : Day := ⟨1970, 1, 1, by decide, by decide, by decide, by decide, by decide⟩

/-- Nanoseconds from the start of 1970 to the start of the day. -/
def start (d : Day) : Int :=
  (d.number - epoch.number) * (24 * 60 * 60 * 10 ^ 9)

end Day

namespace Time

/-- The point is left out with the fraction. -/
def fractionChars (t : Time) : List Char :=
  if t.places = 0 then [] else '.' :: padded t.places t.fraction

def chars (t : Time) : List Char :=
  padded 2 t.hour ++ ':' :: (padded 2 t.minute ++ ':' :: (padded 2 t.second ++ t.fractionChars))

/-- Nanoseconds since midnight. -/
def nanos (t : Time) : Nat :=
  ((t.hour * 60 + t.minute) * 60 + t.second) * 10 ^ 9 + t.fraction * 10 ^ (9 - t.places)

def midnight : Time := ⟨0, 0, 0, 0, 0, by decide, by decide, by decide, by decide, by decide⟩

def clock (t : Time) : Clock := ⟨t.hour, t.minute, t.second, t.fraction * 10 ^ (9 - t.places)⟩

end Time

namespace Zone

def chars : Zone → List Char
  | .utc letter _ => [letter]
  | .offset behind hours minutes _ _ =>
    (if behind then '-' else '+') :: (padded 2 hours ++ ':' :: padded 2 minutes)

/-- Minutes ahead of universal time. -/
def minutes : Zone → Int
  | .utc _ _ => 0
  | .offset behind hours minutes _ _ => (if behind then -1 else 1) * (hours * 60 + minutes : Nat)

end Zone

namespace Timestamp

def text : Timestamp → String
  | .day d => String.ofList d.chars
  | .unzoned d separator _ t => String.ofList (d.chars ++ separator :: t.chars)
  | .zoned d separator _ t z => String.ofList (d.chars ++ separator :: (t.chars ++ z.chars))

/-- Nanoseconds from the start of 1970 in universal time: what the clock shows there, less what it
is ahead. Without a zone it is taken to show universal time. -/
def instant : Timestamp → Int
  | .day d => d.start
  | .unzoned d _ _ t => d.start + t.nanos
  | .zoned d _ _ t z => d.start + t.nanos - z.minutes * (60 * 10 ^ 9)

end Timestamp

theorem Day.fits (d : Day) : d.year < 10 ^ 4 ∧ d.month < 10 ^ 2 ∧ d.day < 10 ^ 2 := by
  have hy := d.year_lt
  have hm := d.month_le
  have hd := d.day_le
  have hl := daysOfMonth_le d.year d.month
  omega

theorem Time.fits (t : Time) : t.hour < 10 ^ 2 ∧ t.minute < 10 ^ 2 ∧ t.second < 10 ^ 2 := by
  have hh := t.hour_lt
  have hm := t.minute_lt
  have hs := t.second_lt
  omega

/-- A text that does not continue a time in front of it. -/
def EndsTime (rest : List Char) : Prop :=
  ∀ c ∈ rest.head?, c.isDigit = false ∧ c ≠ '.'

variable {least width n : Nat} {rest : List Char}

theorem readNumber_padded (hl : least ≤ width) (hw : 0 < width) (h : n < 10 ^ width)
    (rest : List Char) :
    readNumber least width (padded width n ++ rest) = some (n, rest) := by
  have hlen := length_padded hw h
  have hd : (padded width n).takeWhile Char.isDigit = padded width n :=
    List.takeWhile_eq_self_iff.mpr fun c => isDigit_of_mem_padded
  rw [readNumber, List.take_left' hlen, hd, if_neg (by omega), ofDigits_padded, List.drop_left]

theorem readNumber_two (h : n < 10 ^ 2) (rest : List Char) :
    readNumber 2 2 (padded 2 n ++ rest) = some (n, rest) :=
  readNumber_padded (Nat.le_refl 2) Nat.two_pos h rest

theorem readNumber_four (h : n < 10 ^ 4) (rest : List Char) :
    readNumber 4 4 (padded 4 n ++ rest) = some (n, rest) :=
  readNumber_padded (Nat.le_refl 4) (by decide) h rest

theorem span_padded (hr : EndsTime rest) :
    (padded width n ++ rest).span Char.isDigit = (padded width n, rest) := by
  have hd : ∀ c ∈ padded width n, c.isDigit = true := fun c => isDigit_of_mem_padded
  rw [List.span_eq_takeWhile_dropWhile, List.takeWhile_append_of_pos hd,
    List.dropWhile_append_of_pos hd]
  cases rest with
  | nil => simp
  | cons c rest => simp [(hr c rfl).1]

@[simp]
theorem readChar_self (c : Char) (rest : List Char) : readChar c (c :: rest) = some rest :=
  if_pos rfl

theorem readFraction_chars (t : Time) (hr : EndsTime rest) :
    readFraction (t.fractionChars ++ rest) = some (t.fraction * 10 ^ (9 - t.places), rest) := by
  have hf := t.fraction_lt
  have hp := t.places_le
  rw [Time.fractionChars]
  split
  · next hz =>
    rw [hz] at hf
    have h0 : t.fraction = 0 := by omega
    rw [h0, Nat.zero_mul, List.nil_append]
    unfold readFraction
    split
    · exact absurd rfl (hr _ rfl).2
    · rfl
  · next hz =>
    have hpos := Nat.pos_of_ne_zero hz
    have hlen := length_padded hpos hf
    have hne : padded t.places t.fraction ≠ [] := List.length_pos_iff.mp (hpos.trans_eq hlen.symm)
    have htake : (padded t.places t.fraction).take 9 = padded t.places t.fraction :=
      List.take_of_length_le (hlen.trans_le hp)
    simp only [List.cons_append, readFraction, span_padded hr, if_neg hne, htake, ofDigits_padded,
      hlen, Nat.pow_eq]

theorem readField_padded (h : n < 10 ^ 2) (rest : List Char) :
    readField (padded 2 n ++ rest) = some (n, rest) := by
  rw [readField, trimStart_padded Nat.two_pos h, readNumber_padded (Nat.le_succ 1) Nat.two_pos h]

theorem readYear_padded (h : n < 10 ^ 4) (rest : List Char) :
    readYear (padded 4 n ++ rest) = some ((n : Int), rest) := by
  obtain ⟨c, cs, hc, hd⟩ := exists_padded_eq_cons (Nat.zero_lt_succ 3) h
  rw [readYear, trimStart_padded (by decide) h]
  split
  · next he =>
    rw [hc] at he
    cases he
    cases hd
  · next he =>
    rw [hc] at he
    cases he
    cases hd
  · rw [readNumber_padded (by decide) (by decide) h, Option.map_some]

theorem readDate_chars (d : Day) (rest : List Char) :
    readDate (d.chars ++ rest) = some (d.date, rest) := by
  obtain ⟨hy, hm, hd⟩ := d.fits
  simp only [readDate, Day.chars, List.append_assoc, List.cons_append, readYear_padded hy,
    readField_padded hm, readField_padded hd, readChar_self, Option.bind_eq_bind, Option.bind_some]
  rfl

theorem readClock_chars (t : Time) (hr : EndsTime rest) :
    readClock (t.chars ++ rest) = some (t.clock, rest) := by
  obtain ⟨hh, hm, hs⟩ := t.fits
  simp only [readClock, Time.chars, List.append_assoc, List.cons_append, readField_padded hh,
    readField_padded hm, readField_padded hs, readFraction_chars t hr, readChar_self,
    Option.bind_eq_bind, Option.bind_some]
  rfl

theorem bind_of_some {α β : Type} {x : Option α} {f : α → Option β} {a : α} {y : Option β}
    (h : x = some a) (hf : f a = y) :
    x >>= f = y := by
  rw [h]
  exact hf

theorem readZoned_chars (d : Day) {separator : Char}
    (hs : separator = 'T' ∨ separator = 't' ∨ separator = ' ') (t : Time) (hr : EndsTime rest) :
    readZoned (d.chars ++ separator :: (t.chars ++ rest)) =
      (readZone rest).bind fun (offset, cs) => if cs = [] then Moment.of? d.date t.clock offset
        else none := by
  obtain ⟨hyear, hmonth, hday⟩ := d.fits
  obtain ⟨hhour, hminute, hsecond⟩ := t.fits
  have hsep (cs : List Char) : (readChar 'T' (separator :: cs)).or
      ((readChar 't' (separator :: cs)).or (readChar ' ' (separator :: cs))) = some cs := by
    obtain rfl | rfl | rfl := hs <;> rfl
  simp only [Day.chars, Time.chars, List.append_assoc, List.cons_append]
  unfold readZoned
  refine bind_of_some (readNumber_four hyear _) ?_
  refine bind_of_some (readChar_self '-' _) ?_
  refine bind_of_some (readNumber_two hmonth _) ?_
  refine bind_of_some (readChar_self '-' _) ?_
  refine bind_of_some (readNumber_two hday _) ?_
  refine bind_of_some (hsep _) ?_
  refine bind_of_some (readNumber_two hhour _) ?_
  refine bind_of_some (readChar_self ':' _) ?_
  refine bind_of_some (readNumber_two hminute _) ?_
  refine bind_of_some (readChar_self ':' _) ?_
  refine bind_of_some (readNumber_two hsecond _) ?_
  refine bind_of_some (readFraction_chars t hr) ?_
  rfl

theorem endsTime_nil : EndsTime [] :=
  nofun

theorem Zone.endsTime_chars (z : Zone) : EndsTime z.chars := by
  rintro c hc
  cases z with
  | utc letter hl =>
    cases hc
    obtain rfl | rfl := hl <;> decide
  | offset behind =>
    cases hc
    cases behind <;> decide

theorem readZone_chars (z : Zone) : readZone z.chars = some (z.minutes * 60, []) := by
  cases z with
  | utc letter hl => simp [Zone.chars, readZone, hl, Zone.minutes]
  | offset behind hours minutes hh hm =>
    have hhours (cs : List Char) := readNumber_two (n := hours) (by omega) cs
    have hminutes := readNumber_two (n := minutes) (by omega) []
    have hrange : hours ≤ 23 ∧ minutes ≤ 59 := by omega
    rw [List.append_nil] at hminutes
    cases behind with
    | false =>
      simp [Zone.chars, readZone, hhours, hminutes, readChar_self, hrange, Zone.minutes]
      omega
    | true =>
      simp [Zone.chars, readZone, hhours, hminutes, readChar_self, hrange, Zone.minutes]
      omega

theorem Time.isValid_clock (t : Time) : t.clock.isValid = true :=
  decide_eq_true ⟨Nat.le_of_lt_succ t.hour_lt, Nat.le_of_lt_succ t.minute_lt,
    Nat.le_of_lt t.second_lt⟩

theorem Time.nanos_lt (t : Time) : t.fraction * 10 ^ (9 - t.places) < 10 ^ 9 := by
  have hp : 10 ^ t.places * 10 ^ (9 - t.places) = 10 ^ 9 := by
    rw [← Nat.pow_add, Nat.add_sub_cancel' t.places_le]
  rw [← hp]
  exact Nat.mul_lt_mul_of_pos_right t.fraction_lt (Nat.pow_pos (by decide))

/-- Without a leap second the clock shows how many seconds have passed. -/
theorem Moment.of?_eq {date : Date} {clock : Clock} (hd : date.isValid = true)
    (hc : clock.isValid = true) (hs : clock.second < 60) (offset : Int) :
    Moment.of? date clock offset =
      some ⟨date.dayNumber * 86400 + clock.hour * 3600 + clock.minute * 60 + clock.second - offset,
        clock.nanos⟩ := by
  rw [Moment.of?, if_pos ⟨hd, hc⟩, Nat.min_eq_left (Nat.le_of_lt_succ hs), if_neg (Nat.ne_of_lt hs),
    Nat.add_zero]

theorem of?_clock (d : Day) (t : Time) (offset : Int) :
    ∃ m, Moment.of? d.date t.clock offset = some m ∧
    m.epochNanos = d.start + t.nanos - offset * 10 ^ 9 ∧ m.nanos < 10 ^ 9 := by
  refine ⟨_, Moment.of?_eq d.isValid_date t.isValid_clock t.second_lt offset, ?_, t.nanos_lt⟩
  have he : Date.dayNumber ⟨1970, 1, 1⟩ = Day.epoch.number - 366 := Day.epoch.dayNumber_date
  rw [Moment.epochNanos, he, d.dayNumber_date, Day.start, Time.nanos]
  simp only [Time.clock]
  generalize t.fraction * 10 ^ (9 - t.places) = nanos
  omega

theorem readZoned_day (d : Day) : readZoned d.chars = none := by
  obtain ⟨hyear, hmonth, hday⟩ := d.fits
  have hlast := readNumber_two hday []
  rw [List.append_nil] at hlast
  unfold readZoned
  refine bind_of_some (readNumber_four hyear _) ?_
  refine bind_of_some (readChar_self '-' _) ?_
  refine bind_of_some (readNumber_two hmonth _) ?_
  refine bind_of_some (readChar_self '-' _) ?_
  refine bind_of_some hlast ?_
  rfl

theorem readLocal_day (d : Day) : readLocal d.chars = none := by
  have hd := readDate_chars d []
  rw [List.append_nil] at hd
  rw [readLocal, hd]
  rfl

theorem readLocal_chars (d : Day) {separator : Char}
    (hs : separator = 'T' ∨ separator = ' ') (t : Time) :
    readLocal (d.chars ++ separator :: t.chars) = Moment.of? d.date t.clock 0 := by
  have ht := readClock_chars t endsTime_nil
  rw [List.append_nil] at ht
  have hsep : ((readChar 'T' (separator :: t.chars)).bind readClock).or
      (readClock (trimStart (separator :: t.chars))) = some (t.clock, []) := by
    obtain rfl | rfl := hs
    · rw [readChar_self, Option.bind_some, ht]
      rfl
    · have hspace : trimStart (' ' :: t.chars) = trimStart t.chars := rfl
      rw [hspace, Time.chars, trimStart_padded Nat.two_pos t.fits.1, ← Time.chars, ht]
      rfl
  rw [readLocal, readDate_chars]
  simp only [Option.bind_eq_bind, Option.bind_some, hsep, if_true]

/-- Each notation is for one of the three readers, and the readers before that refuse it. -/
theorem read?_text (s : Timestamp) :
    ∃ m, Moment.read? s.text = some m ∧ m.epochNanos = s.instant ∧ m.nanos < 10 ^ 9 := by
  cases s with
  | day d =>
    obtain ⟨m, hm, he, hn⟩ := of?_clock d .midnight 0
    have hd := readDate_chars d []
    rw [List.append_nil] at hd
    refine ⟨m, ?_, ?_, hn⟩
    · rw [Moment.read?, Timestamp.text, String.toList_ofList, readZoned_day,
        readLocal_day, readDay, hd]
      exact hm
    · rw [he]
      simp [Timestamp.instant, Time.nanos, Time.midnight]
  | unzoned d separator hs t =>
    obtain ⟨m, hm, he, hn⟩ := of?_clock d t 0
    refine ⟨m, ?_, ?_, hn⟩
    · have hz := readZoned_chars d (hs.imp_right .inr) t endsTime_nil
      rw [List.append_nil] at hz
      rw [Moment.read?, Timestamp.text, String.toList_ofList, hz, readLocal_chars d hs t, hm]
      rfl
    · rw [he, Timestamp.instant, Int.zero_mul, Int.sub_zero]
  | zoned d separator hs t z =>
    obtain ⟨m, hm, he, hn⟩ := of?_clock d t (z.minutes * 60)
    have hz := readZoned_chars d hs t z.endsTime_chars
    refine ⟨m, ?_, ?_, hn⟩
    · rw [Moment.read?, Timestamp.text, String.toList_ofList, hz, readZone_chars, Option.bind_some]
      dsimp only
      rw [if_pos rfl, hm]
      rfl
    · rw [he, Timestamp.instant, Int.mul_assoc]

/-- Whole seconds weigh more than what is left of the second. -/
theorem Moment.compare_eq {x y : Moment} (hx : x.nanos < 10 ^ 9) (hy : y.nanos < 10 ^ 9) :
    x.compare y = Ord.compare x.epochNanos y.epochNanos := by
  have hd : x.epochNanos - y.epochNanos =
      (x.seconds - y.seconds) * 1000000000 + (x.nanos - y.nanos) := by
    unfold Moment.epochNanos
    omega
  rw [Moment.compare]
  obtain h | h | h := Int.lt_trichotomy x.seconds y.seconds
  · have he : x.epochNanos < y.epochNanos := by omega
    rw [compare_lt_iff_lt.mpr h, compare_lt_iff_lt.mpr he]
    rfl
  · rw [compare_eq_iff_eq.mpr h, Ordering.eq_then]
    obtain hn | hn | hn := Nat.lt_trichotomy x.nanos y.nanos
    · have he : x.epochNanos < y.epochNanos := by omega
      rw [compare_lt_iff_lt.mpr hn, compare_lt_iff_lt.mpr he]
    · have he : x.epochNanos = y.epochNanos := by omega
      rw [compare_eq_iff_eq.mpr hn, compare_eq_iff_eq.mpr he]
    · have he : y.epochNanos < x.epochNanos := by omega
      rw [compare_gt_iff_gt.mpr hn, compare_gt_iff_gt.mpr he]
  · have he : y.epochNanos < x.epochNanos := by omega
    rw [compare_gt_iff_gt.mpr h, compare_gt_iff_gt.mpr he]
    rfl

end Toolflow.Calendar
