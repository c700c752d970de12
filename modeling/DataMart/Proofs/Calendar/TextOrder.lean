import DataMart.Proofs.Calendar.Chronology
import DataMart.Proofs.Store.Cells
import DataMart.Proofs.Text.Bytes

/-!
# Texts of times in order

The mart keeps dates and times as texts, and its queries sort by these. A date is written from the
year down to the day and a time goes on down to the fraction of its second, each number but the last
with leading zeros, so texts are in the order of what they stand for: where two of them differ first,
the greater number has the greater digit. Fractions differ in length, for zeros at their end may be
missing, which never matters to the order. A leap second at the end of a minute is written as second
60, after 59. Inside a minute it would be written as the second that follows it, and the order of the
texts is lost (`leap_second_inside_minute`).

* `digits_lt_iff`: numbers with leading zeros are in the order of their digits.
* `fractionText_lt_iff`: fractions are in the order of their texts.
* `Date.text_lt_iff`, `Timestamp.text_lt_iff`: so are dates and times.
* `stored_texts_in_order`: the mart sorts dates and times as the calendar does.
-/

namespace DataMart

/-! ## Lists in order -/

/-- Things of which each order follows the other are equal together. -/
theorem eq_iff_of_lt_iff {α β : Type} [LinearOrder α] [LinearOrder β] {a b : α} {x y : β}
    (hlt : a < b ↔ x < y) (hgt : b < a ↔ y < x) : a = b ↔ x = y := by
  simp only [le_antisymm_iff, ← not_lt, hlt, hgt]

section lists

variable {α : Type} [LinearOrder α] {a b x y : List α}

/-- Of lists with starts of one length the starts are compared first. -/
theorem append_lt_append_iff (h : a.length = b.length) :
    a ++ x < b ++ y ↔ a < b ∨ a = b ∧ x < y := by
  induction a generalizing b with
  | nil =>
      cases b with
      | nil => simp
      | cons d b => cases h
  | cons c a ih =>
      cases b with
      | nil => cases h
      | cons d b =>
          simp only [List.cons_append, List.cons_lt_cons_iff, ih (Nat.succ.inj h), List.cons.injEq]
          tauto

/-- What stands behind the end of a list does not make it the greater one, if nothing in it is less. -/
theorem lt_of_append_replicate_lt {c : α} {k l : Nat} (hx : ∀ d ∈ x, c ≤ d)
    (hlen : x.length + k = y.length + l)
    (h : x ++ List.replicate k c < y ++ List.replicate l c) : x < y := by
  induction x generalizing y l with
  | nil =>
      cases y with
      | nil =>
          obtain rfl : k = l := by simpa using hlen
          exact absurd h (lt_irrefl _)
      | cons e y => exact List.nil_lt_cons e y
  | cons d x ih =>
      obtain ⟨hd, hx⟩ := List.forall_mem_cons.1 hx
      cases y with
      | nil =>
          obtain ⟨l, rfl⟩ : ∃ l', l = l' + 1 := ⟨x.length + k, by simp at hlen; omega⟩
          rw [List.nil_append, List.cons_append, List.replicate_succ, List.cons_lt_cons_iff] at h
          rcases h with hlt | ⟨-, hrest⟩
          · exact absurd hd (not_le_of_gt hlt)
          · have hshorter := ih hx (y := []) (l := l) (by simp at hlen ⊢; omega) hrest
            exact absurd hshorter (List.not_lt_nil x)
      | cons e y =>
          rw [List.cons_append, List.cons_append, List.cons_lt_cons_iff] at h
          rw [List.cons_lt_cons_iff]
          rcases h with hlt | ⟨heq, hrest⟩
          · exact .inl hlt
          · exact .inr ⟨heq, ih hx (by simp at hlen; omega) hrest⟩

end lists

/-! ## Digits -/

namespace Text

/-- The digits of a number, filled up with zeros. -/
def digits (width n : Nat) : List Char := (zeroPadded width n).toList

theorem toList_zeroPadded (width n : Nat) : (zeroPadded width n).toList = digits width n := rfl

/-- A further digit stands at the end. -/
theorem digits_succ {width : Nat} (hwidth : 0 < width) (n : Nat) :
    digits (width + 1) n = digits width (n / 10) ++ [Nat.digitChar (n % 10)] := by
  unfold digits zeroPadded
  simp only [String.toList_ofList]
  rcases Nat.lt_or_ge n 10 with hsmall | hlarge
  · rw [Nat.toDigits_of_lt_base hsmall, Nat.div_eq_of_lt hsmall, Nat.mod_eq_of_lt hsmall,
      Nat.toDigits_zero]
    obtain ⟨width, rfl⟩ : ∃ w, width = w + 1 := ⟨width - 1, by omega⟩
    simp [List.replicate_succ']
  · rw [Nat.toDigits_of_base_le (by decide) hlarge]
    simp

theorem digits_one {n : Nat} (hn : n < 10) : digits 1 n = [Nat.digitChar n] := by
  unfold digits zeroPadded
  rw [String.toList_ofList, Nat.toDigits_of_lt_base hn]
  rfl

/-- A number that is small enough has as many digits as there are places. -/
theorem length_digits {width n : Nat} (hwidth : 0 < width) (hn : n < 10 ^ width) :
    (digits width n).length = width := by
  induction width, hwidth using Nat.le_induction generalizing n with
  | base => rw [digits_one (by simpa using hn)]; rfl
  | succ width hwidth ih =>
      rw [digits_succ hwidth, List.length_append, ih (by rw [Nat.pow_succ] at hn; omega)]
      rfl

/-- Digits are in the order of what they stand for. -/
theorem digitChar_lt_iff {m n : Nat} (hm : m < 10) (hn : n < 10) :
    Nat.digitChar m < Nat.digitChar n ↔ m < n := by
  have hall : ∀ m < 10, ∀ n < 10, Nat.digitChar m < Nat.digitChar n ↔ m < n := by decide
  exact hall m hm n hn

/-- **Numbers with leading zeros are in the order of their digits.** -/
theorem digits_lt_iff {width m n : Nat} (hwidth : 0 < width) (hm : m < 10 ^ width)
    (hn : n < 10 ^ width) : digits width m < digits width n ↔ m < n := by
  induction width, hwidth using Nat.le_induction generalizing m n with
  | base =>
      rw [Nat.pow_one] at hm hn
      rw [digits_one hm, digits_one hn, List.cons_lt_cons_iff, digitChar_lt_iff hm hn]
      simp
  | succ width hwidth ih =>
      rw [Nat.pow_succ] at hm hn
      have hm' : m / 10 < 10 ^ width := by omega
      have hn' : n / 10 < 10 ^ width := by omega
      have hlast := digitChar_lt_iff (Nat.mod_lt m (by decide)) (Nat.mod_lt n (by decide))
      have hlen := (length_digits hwidth hm').trans (length_digits hwidth hn').symm
      rw [digits_succ hwidth, digits_succ hwidth, append_lt_append_iff hlen, ih hm' hn',
        List.cons_lt_cons_iff, hlast]
      rw [eq_iff_of_lt_iff (ih hm' hn') (ih hn' hm')]
      simp only [List.not_lt_nil, and_false, or_false]
      omega

/-- Numbers with leading zeros are told by their digits. -/
theorem digits_inj {width m n : Nat} (hwidth : 0 < width) (hm : m < 10 ^ width)
    (hn : n < 10 ^ width) : digits width m = digits width n ↔ m = n :=
  eq_iff_of_lt_iff (digits_lt_iff hwidth hm hn) (digits_lt_iff hwidth hn hm)

/-- Texts that start with numbers of one width are compared by these first. -/
theorem digits_append_lt_iff {width m n : Nat} (hwidth : 0 < width) (hm : m < 10 ^ width)
    (hn : n < 10 ^ width) {x y : List Char} :
    digits width m ++ x < digits width n ++ y ↔ m < n ∨ m = n ∧ x < y := by
  rw [append_lt_append_iff ((length_digits hwidth hm).trans (length_digits hwidth hn).symm),
    digits_lt_iff hwidth hm hn, digits_inj hwidth hm hn]

/-- Ten times a number has a zero more at its end. -/
theorem digits_mul_pow {width : Nat} (hwidth : 0 < width) (n k : Nat) :
    digits (width + k) (n * 10 ^ k) = digits width n ++ List.replicate k '0' := by
  induction k with
  | zero => simp
  | succ k ih =>
      have hten : n * 10 ^ (k + 1) = 10 * (n * 10 ^ k) := by ring
      rw [← Nat.add_assoc, digits_succ (by omega), hten, Nat.mul_div_cancel_left _ (by decide),
        Nat.mul_mod_right, ih, List.replicate_succ', List.append_assoc]
      rfl

end Text

/-! ## Fractions of a second -/

namespace Calendar

open Text (digits digits_append_lt_iff digits_mul_pow digits_lt_iff)

/-- A fraction other than zero has the nine digits of its nanoseconds behind the point, but for zeros
at its end. -/
theorem exists_fraction {nanos : Nat} (hnanos : nanos ≠ 0) :
    ∃ shown k, (fractionText nanos).toList = '.' :: shown ∧
      shown ++ List.replicate k '0' = digits 9 nanos := by
  unfold fractionText
  rw [if_neg hnanos]
  split
  · rename_i hmillis
    refine ⟨digits 3 (nanos / 1000000), 6, by rw [String.toList_append]; rfl, ?_⟩
    have hwhole : nanos / 1000000 * 10 ^ 6 = nanos :=
      Nat.div_mul_cancel (Nat.dvd_of_mod_eq_zero hmillis)
    rw [← digits_mul_pow (by decide), hwhole]
  · split
    · rename_i hmicros
      refine ⟨digits 6 (nanos / 1000), 3, by rw [String.toList_append]; rfl, ?_⟩
      have hwhole : nanos / 1000 * 10 ^ 3 = nanos :=
        Nat.div_mul_cancel (Nat.dvd_of_mod_eq_zero hmicros)
      rw [← digits_mul_pow (by decide), hwhole]
    · exact ⟨digits 9 nanos, 0, by rw [String.toList_append]; rfl, by simp⟩

/-- A smaller fraction has a smaller text. -/
theorem fractionText_lt {m n : Nat} (hn : n < nanosPerSecond) (h : m < n) :
    (fractionText m).toList < (fractionText n).toList := by
  obtain ⟨y, l, hy, hdigits⟩ := exists_fraction (show n ≠ 0 by omega)
  rw [hy]
  by_cases hzero : m = 0
  · rw [hzero]
    exact List.nil_lt_cons _ _
  · obtain ⟨x, k, hx, hdigits'⟩ := exists_fraction hzero
    have hm : m < 10 ^ 9 := Nat.lt_trans h hn
    have hless : digits 9 m < digits 9 n := (digits_lt_iff (by decide) hm hn).2 h
    have hlen : (digits 9 n).length = 9 := Text.length_digits (by decide) hn
    have hlen' : (digits 9 m).length = 9 := Text.length_digits (by decide) hm
    have hzeros : ∀ c ∈ x, '0' ≤ c := by
      intro c hc
      have hdigit := (digits_zeroPadded 9 m).2 c (by
        rw [Text.toList_zeroPadded, ← hdigits']
        exact List.mem_append_left _ hc)
      simp [Char.isDigit] at hdigit
      exact hdigit.1
    rw [← hdigits', ← hdigits] at hless
    rw [← hdigits, List.length_append, List.length_replicate] at hlen
    rw [← hdigits', List.length_append, List.length_replicate] at hlen'
    rw [hx, List.cons_lt_cons_iff]
    exact .inr ⟨rfl, lt_of_append_replicate_lt hzeros (hlen'.trans hlen.symm) hless⟩

/-- **Fractions are in the order of their texts**, though these differ in length. -/
theorem fractionText_lt_iff {m n : Nat} (hm : m < nanosPerSecond) (hn : n < nanosPerSecond) :
    (fractionText m).toList < (fractionText n).toList ↔ m < n := by
  refine ⟨fun h => ?_, fractionText_lt hn⟩
  rcases Nat.lt_trichotomy m n with hlt | rfl | hgt
  · exact hlt
  · exact absurd h (lt_irrefl _)
  · exact absurd h (lt_asymm (fractionText_lt hm hgt))

/-! ## Texts of dates and times -/

/-- The year of a date is written with four digits and no sign. -/
def Date.FourDigitYear (d : Date) : Prop := 0 ≤ d.year ∧ d.year ≤ 9999

namespace Date

/-- A date is written as digits and dashes. -/
theorem toList_text {d : Date} (hd : d.FourDigitYear) : d.text.toList =
    digits 4 d.year.toNat ++ '-' :: (digits 2 d.month ++ '-' :: digits 2 d.day) := by
  have hyear : yearText d.year = Text.zeroPadded 4 d.year.toNat := if_pos hd
  have hdash : "-".toList = ['-'] := rfl
  simp only [text, String.toList_append, hyear, hdash, Text.toList_zeroPadded, List.append_assoc,
    List.cons_append, List.nil_append]

/-- **Texts that start with dates are compared by these first.** -/
theorem text_append_lt_iff {d e : Date} (hd : d.FourDigitYear) (he : e.FourDigitYear)
    {x y : List Char} :
    d.text.toList ++ x < e.text.toList ++ y ↔ d.dayNumber < e.dayNumber ∨ d = e ∧ x < y := by
  obtain ⟨-, hmonth, -, hday⟩ := d.bounds
  obtain ⟨-, hmonth', -, hday'⟩ := e.bounds
  have hlast := daysInMonth_le d.year d.month
  have hlast' := daysInMonth_le e.year e.month
  unfold FourDigitYear at hd he
  simp only [toList_text hd, toList_text he, List.append_assoc, List.cons_append]
  rw [digits_append_lt_iff (by decide) (by omega) (by omega), List.cons_lt_cons_iff,
    digits_append_lt_iff (by decide) (by omega) (by omega), List.cons_lt_cons_iff,
    digits_append_lt_iff (by decide) (by omega) (by omega), dayNumber_lt_iff, eq_iff_parts]
  have hyear : d.year.toNat < e.year.toNat ↔ d.year < e.year := by omega
  have hsame : d.year.toNat = e.year.toNat ↔ d.year = e.year := by omega
  rw [hyear, hsame]
  simp only [lt_self_iff_false, false_or, true_and]
  tauto

/-- **Dates are in the order of their texts.** -/
theorem text_lt_iff {d e : Date} (hd : d.FourDigitYear) (he : e.FourDigitYear) :
    d.text < e.text ↔ d.dayNumber < e.dayNumber := by
  have h := text_append_lt_iff hd he (x := []) (y := [])
  rw [List.append_nil, List.append_nil] at h
  rw [String.lt_iff, h]
  simp

end Date

namespace Timestamp

/-- The second that is shown: the next one in a leap second. -/
def shownSecond (t : Timestamp) : Nat :=
  if nanosPerSecond ≤ t.nanos then t.second + 1 else t.second

/-- The nanoseconds that are shown: those since the start of the second that is shown. -/
def shownNanos (t : Timestamp) : Nat :=
  if nanosPerSecond ≤ t.nanos then t.nanos - nanosPerSecond else t.nanos

/-- A time of day is written as digits and colons, with a fraction at its end. -/
theorem toList_timeText (t : Timestamp) : t.timeText.toList =
    digits 2 t.hour ++ ':' :: (digits 2 t.minute ++ ':' :: (digits 2 t.shownSecond ++
      (fractionText t.shownNanos).toList)) := by
  have hcolon : ":".toList = [':'] := rfl
  simp only [timeText, String.toList_append, hcolon, Text.toList_zeroPadded, List.append_assoc,
    List.cons_append, List.nil_append]
  rfl

/-- **Times of a day are in the order of their texts.** -/
theorem timeText_lt_iff {t u : Timestamp} (ht : t.LeapAtEnd) (hu : u.LeapAtEnd) :
    t.timeText.toList < u.timeText.toList ↔
    t.hour < u.hour ∨ t.hour = u.hour ∧ (t.minute < u.minute ∨ t.minute = u.minute ∧
      (t.second < u.second ∨ t.second = u.second ∧ t.nanos < u.nanos)) := by
  obtain ⟨hhour, hminute, hsecond, hnanos⟩ := t.bounds
  obtain ⟨hhour', hminute', hsecond', hnanos'⟩ := u.bounds
  unfold LeapAtEnd at ht hu
  -- a leap second follows all of the second before it, as second 60 follows second 59
  have hshown : t.shownSecond < 10 ^ 2 ∧ u.shownSecond < 10 ^ 2 ∧
      t.shownNanos < nanosPerSecond ∧ u.shownNanos < nanosPerSecond ∧
      (t.shownSecond < u.shownSecond ∨ t.shownSecond = u.shownSecond ∧ t.shownNanos < u.shownNanos ↔
        t.second < u.second ∨ t.second = u.second ∧ t.nanos < u.nanos) := by
    unfold shownSecond shownNanos nanosPerSecond at *
    split <;> split <;> omega
  obtain ⟨hshownSecond, hshownSecond', hshownNanos, hshownNanos', hiff⟩ := hshown
  rw [toList_timeText, toList_timeText, digits_append_lt_iff (by decide) (by omega) (by omega),
    List.cons_lt_cons_iff, digits_append_lt_iff (by decide) (by omega) (by omega),
    List.cons_lt_cons_iff, digits_append_lt_iff (by decide) hshownSecond hshownSecond',
    fractionText_lt_iff hshownNanos hshownNanos', hiff]
  simp only [lt_self_iff_false, false_or, true_and]

/-- A year of four digits, and no leap second inside a minute. -/
structure Regular (t : Timestamp) : Prop where
  year : t.date.FourDigitYear
  leap : t.LeapAtEnd

/-- **Times are in the order of their texts.** -/
theorem text_lt_iff {t u : Timestamp} (ht : t.Regular) (hu : u.Regular) :
    t.text < u.text ↔ t.moment < u.moment := by
  have hblank : " ".toList = [' '] := rfl
  rw [String.lt_iff]
  simp only [text, textWith, String.toList_append, hblank, List.append_assoc, List.cons_append,
    List.nil_append]
  rw [Date.text_append_lt_iff ht.year hu.year, List.cons_lt_cons_iff,
    timeText_lt_iff ht.leap hu.leap, moment_lt_iff]
  simp only [lt_self_iff_false, false_or, true_and]

end Timestamp

end Calendar

/-! ## Times as they are stored -/

namespace Calendar

open Text (bytes bytes_lt_iff)

/-- Times with one text are one time. -/
theorem Timestamp.text_inj {t u : Timestamp} (ht : t.Regular) (hu : u.Regular) :
    t = u ↔ t.text = u.text := by
  rw [← moment_inj]
  exact (eq_iff_of_lt_iff (text_lt_iff ht hu) (text_lt_iff hu ht)).symm

/-- Dates with one text are one date. -/
theorem Date.text_inj {d e : Date} (hd : d.FourDigitYear) (he : e.FourDigitYear) :
    d = e ↔ d.text = e.text := by
  rw [← dayNumber_inj]
  exact (eq_iff_of_lt_iff (text_lt_iff hd he) (text_lt_iff he hd)).symm

/-- A text is kept as it is, whatever type its column has. -/
theorem store_eq_text {v : Value} {s : String} (h : Cell.ofValue v = .text s) (type : ColumnType) :
    Cell.store type v = .text s := by
  unfold Cell.store
  rw [h]
  cases type <;> rfl

/-- Stored texts whose order is that of numbers are compared as the numbers. -/
theorem compare_text {s t : String} {m n : Int} (hlt : s < t ↔ m < n) (hgt : t < s ↔ n < m) :
    Cell.compare (.text s) (.text t) = compare m n := by
  simp only [Cell.compare, hlt, hgt, compare, compareOfLessAndEq]
  split_ifs <;> first | rfl | omega

/-- **Stored times in order.** Of times with years that are written with four digits and leap seconds
at the end of a minute only, the earlier one has the smaller text, byte by byte, and only one time has
a text; so the mart sorts what it keeps of them as the calendar does, whatever types their columns
have. The same holds of dates. -/
theorem stored_texts_in_order :
    (∀ t u : Timestamp, t.Regular → u.Regular →
      (t.moment < u.moment ↔ bytes t.text < bytes u.text) ∧ (t = u ↔ t.text = u.text) ∧
      ∀ a b : ColumnType, Cell.compare (Cell.store a (.timestamp t)) (Cell.store b (.timestamp u)) =
        compare t.moment u.moment) ∧
    ∀ d e : Date, d.FourDigitYear → e.FourDigitYear →
      (d.dayNumber < e.dayNumber ↔ bytes d.text < bytes e.text) ∧ (d = e ↔ d.text = e.text) ∧
      ∀ a b : ColumnType, Cell.compare (Cell.store a (.date d)) (Cell.store b (.date e)) =
        compare d.dayNumber e.dayNumber := by
  constructor
  · intro t u ht hu
    have hlt := Timestamp.text_lt_iff ht hu
    have hgt := Timestamp.text_lt_iff hu ht
    refine ⟨?_, Timestamp.text_inj ht hu, ?_⟩
    · rw [bytes_lt_iff, hlt]
    · intro a b
      rw [store_eq_text (s := t.text) rfl, store_eq_text (s := u.text) rfl, compare_text hlt hgt]
  · intro d e hd he
    have hlt := Date.text_lt_iff hd he
    have hgt := Date.text_lt_iff he hd
    refine ⟨?_, Date.text_inj hd he, ?_⟩
    · rw [bytes_lt_iff, hlt]
    · intro a b
      rw [store_eq_text (s := d.text) rfl, store_eq_text (s := e.text) rfl, compare_text hlt hgt]

/-- The middle of the leap second at the end of 2016, shown as second 60, comes before the year 2017
and so does its date. -/
theorem leap_second_before_new_year :
    ∃ (t u : Timestamp), t.Regular ∧ u.Regular ∧ t.text = "2016-12-31 23:59:60.500" ∧
      u.text = "2017-01-01 00:00:00" ∧ bytes t.text < bytes u.text ∧
      bytes t.date.text < bytes u.date.text := by
  let t : Timestamp := ⟨⟨2016, 12, 31, by decide⟩, 23, 59, 59, 1500000000, by decide⟩
  let u : Timestamp := ⟨⟨2017, 1, 1, by decide⟩, 0, 0, 0, 0, by decide⟩
  have ht : t.Regular := ⟨⟨by decide, by decide⟩, by decide⟩
  have hu : u.Regular := ⟨⟨by decide, by decide⟩, by decide⟩
  refine ⟨t, u, ht, hu, by decide, by decide, ?_, ?_⟩
  · exact (stored_texts_in_order.1 t u ht hu).1.1 (by decide)
  · exact (stored_texts_in_order.2 t.date u.date ht.year hu.year).1.1 (by decide)

/-- A leap second inside a minute is written as the second after it: its middle comes before a time of
that second whose text is smaller, and has the text of another. -/
theorem leap_second_inside_minute :
    ∃ t u v : Timestamp, t.date.FourDigitYear ∧ u.date.FourDigitYear ∧ v.date.FourDigitYear ∧
      t.text = "2025-01-01 23:56:05.500" ∧ u.text = "2025-01-01 23:56:05.200" ∧
      t.moment < u.moment ∧ ¬ bytes t.text < bytes u.text ∧ t ≠ v ∧ t.text = v.text := by
  let day : Date := ⟨2025, 1, 1, by decide⟩
  let t : Timestamp := ⟨day, 23, 56, 4, 1500000000, by decide⟩
  let u : Timestamp := ⟨day, 23, 56, 5, 200000000, by decide⟩
  let v : Timestamp := ⟨day, 23, 56, 5, 500000000, by decide⟩
  have hday : day.FourDigitYear := ⟨by decide, by decide⟩
  have htext : t.text = "2025-01-01 23:56:05.500" := by decide
  have htext' : u.text = "2025-01-01 23:56:05.200" := by decide
  refine ⟨t, u, v, hday, hday, hday, htext, htext', by decide, ?_, by decide, by decide⟩
  rw [htext, htext']
  decide

end Calendar

end DataMart
