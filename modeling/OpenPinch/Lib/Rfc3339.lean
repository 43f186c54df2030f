import Mathlib.Algebra.Group.Int.Defs
import Mathlib.Data.List.Lex
import Mathlib.Data.String.Basic
import Mathlib.Order.Lattice
import Mathlib.Tactic.Common

/-!
# Timestamps of RFC 3339

The instants of the years 0000 to 9999 in the proleptic Gregorian calendar, and
their texts with a fraction of the shortest exact width.  The order of the texts
is the order of the instants: all parts before the fraction have a fixed width,
and the sign of the zone is smaller than the dot and than every digit.
-/

namespace Lib.Rfc3339

/-! ## Places -/

/-- The order of a quotient and a remainder. -/
theorem place_lt_iff {a b r s k : Nat} (hr : r < k) (hs : s < k) :
    a * k + r < b * k + s ↔ a < b ∨ a = b ∧ r < s := by
  rcases lt_trichotomy a b with hlt | rfl | hgt
  · have hstep : (a + 1) * k ≤ b * k := Nat.mul_le_mul_right k hlt
    rw [Nat.add_mul, Nat.one_mul] at hstep
    exact ⟨fun _ => .inl hlt, fun _ => by omega⟩
  · simp
  · have hstep : (b + 1) * k ≤ a * k := Nat.mul_le_mul_right k hgt
    rw [Nat.add_mul, Nat.one_mul] at hstep
    exact ⟨fun h => by omega, fun h => by omega⟩

/-- The start of a block, behind all blocks before it. -/
def start (len : Nat → Nat) : Nat → Nat
  | 0 => 0
  | i + 1 => start len i + len i

theorem start_mono {len : Nat → Nat} {i j : Nat} (h : i ≤ j) : start len i ≤ start len j := by
  induction h with
  | refl => exact Nat.le_refl _
  | step _ ih => exact Nat.le_trans ih (Nat.le_add_right _ _)

/-- The order of a block and an offset in it. -/
theorem block_lt_iff {len : Nat → Nat} {i j r s : Nat} (hr : r < len i) (hs : s < len j) :
    start len i + r < start len j + s ↔ i < j ∨ i = j ∧ r < s := by
  rcases lt_trichotomy i j with hlt | rfl | hgt
  · have hnext : start len i + len i ≤ start len j := start_mono (i := i + 1) hlt
    exact ⟨fun _ => .inl hlt, fun _ => by omega⟩
  · simp
  · have hnext : start len j + len j ≤ start len i := start_mono (i := j + 1) hgt
    exact ⟨fun h => by omega, fun h => by omega⟩

/-- The block of a number among so many, and the offset in it. -/
def block (len : Nat → Nat) : Nat → Nat → Nat × Nat
  | 0, n => (0, n)
  | k + 1, n => if n < start len k then block len k n else (k, n - start len k)

/-- Every number before the end of the blocks lies in its block. -/
theorem block_spec {len : Nat → Nat} {n k : Nat} (h : n < start len k) :
    (block len k n).1 < k ∧ (block len k n).2 < len (block len k n).1 ∧
      start len (block len k n).1 + (block len k n).2 = n := by
  induction k with
  | zero => exact absurd h (Nat.not_lt_zero n)
  | succ k ih =>
      unfold block
      by_cases hbefore : n < start len k
      · obtain ⟨hi, hr, hn⟩ := ih hbefore
        rw [if_pos hbefore]
        exact ⟨Nat.lt_succ_of_lt hi, hr, hn⟩
      · rw [if_neg hbefore]
        simp only [start] at h
        show k < k + 1 ∧ n - start len k < len k ∧ start len k + (n - start len k) = n
        omega

/-! ## Numbers of fixed width -/

/-- A decimal digit. -/
def digit (n : Nat) : Char := Char.ofNat (48 + n)

/-- A number as so many decimal digits. -/
def digits : Nat → Nat → List Char
  | 0, _ => []
  | width + 1, n => digits width (n / 10) ++ [digit (n % 10)]

theorem digit_lt_iff : ∀ n < 10, ∀ m < 10, (digit n < digit m ↔ n < m) := by decide

theorem plus_lt_digit : ∀ n < 10, '+' < digit n := by decide

@[simp] theorem digits_length (width n : Nat) : (digits width n).length = width := by
  induction width generalizing n with
  | zero => rfl
  | succ width ih => simp [digits, ih]

theorem digits_add (width more n : Nat) :
    digits (width + more) n = digits width (n / 10 ^ more) ++ digits more (n % 10 ^ more) := by
  induction more generalizing n with
  | zero => simp [digits]
  | succ more ih =>
      have hmod : n % 10 ^ (more + 1) % 10 = n % 10 :=
        Nat.mod_mod_of_dvd n ⟨10 ^ more, by rw [Nat.pow_succ, Nat.mul_comm]⟩
      have hdiv : n % 10 ^ (more + 1) / 10 = n / 10 % 10 ^ more := by
        rw [Nat.pow_succ, Nat.mul_comm, Nat.mod_mul_right_div_self]
      have hquot : n / 10 / 10 ^ more = n / 10 ^ (more + 1) := by
        rw [Nat.div_div_eq_div_mul, Nat.pow_succ, Nat.mul_comm]
      rw [← Nat.add_assoc, digits, ih, digits, hmod, hdiv, hquot, List.append_assoc]

/-- Texts of one length decide before what follows them. -/
theorem append_lt_append_iff {xs ys us vs : List Char} (h : xs.length = ys.length) :
    xs ++ us < ys ++ vs ↔ xs < ys ∨ xs = ys ∧ us < vs := by
  induction xs generalizing ys with
  | nil =>
      cases ys with
      | nil => simp
      | cons y ys => simp at h
  | cons x xs ih =>
      cases ys with
      | nil => simp at h
      | cons y ys =>
          have hlen : xs.length = ys.length := by simpa using h
          simp only [List.cons_append, List.cons_lt_cons_iff, ih hlen, List.cons.injEq]
          tauto

theorem cons_lt_cons_same {c : Char} {us vs : List Char} : c :: us < c :: vs ↔ us < vs := by
  simp

theorem digits_lt_iff {width n m : Nat} (hn : n < 10 ^ width) (hm : m < 10 ^ width) :
    digits width n < digits width m ↔ n < m := by
  induction width generalizing n m with
  | zero =>
      have hn : n = 0 := by simpa using hn
      have hm : m = 0 := by simpa using hm
      simp [hn, hm]
  | succ width ih =>
      rw [Nat.pow_succ] at hn hm
      have hn' : n / 10 < 10 ^ width := by omega
      have hm' : m / 10 < 10 ^ width := by omega
      have heq : digits width (n / 10) = digits width (m / 10) ↔ n / 10 = m / 10 := by
        refine ⟨fun hsame => ?_, fun hsame => by rw [hsame]⟩
        have hless := ih hn' hm'
        have hmore := ih hm' hn'
        rw [hsame] at hless hmore
        simp only [lt_irrefl, false_iff] at hless hmore
        omega
      rw [digits, digits, append_lt_append_iff (by simp), ih hn' hm', heq, List.cons_lt_cons_iff,
        digit_lt_iff _ (by omega) _ (by omega)]
      simp only [List.not_lt_nil, and_false, or_false]
      omega

/-- A number of fixed width decides before what follows it. -/
theorem digits_append_lt_iff {width n m : Nat} {us vs : List Char} (hn : n < 10 ^ width)
    (hm : m < 10 ^ width) :
    digits width n ++ us < digits width m ++ vs ↔ n < m ∨ n = m ∧ us < vs := by
  have heq : digits width n = digits width m ↔ n = m := by
    refine ⟨fun hsame => ?_, fun hsame => by rw [hsame]⟩
    have hless := digits_lt_iff hn hm
    have hmore := digits_lt_iff hm hn
    rw [hsame] at hless hmore
    simp only [lt_irrefl, false_iff] at hless hmore
    omega
  rw [append_lt_append_iff (by simp), digits_lt_iff hn hm, heq]

/-! ## Fractions -/

/-- The sign and the offset of UTC. -/
def zone : List Char := "+00:00".toList

/-- The fraction of a second, with no, three, six or nine digits. -/
def fraction (nano : Nat) : List Char :=
  if nano = 0 then []
  else if nano % 1000000 = 0 then '.' :: digits 3 (nano / 1000000)
  else if nano % 1000 = 0 then '.' :: digits 6 (nano / 1000)
  else '.' :: digits 9 nano

/-- Groups of three digits as long as something is left, and the zone. -/
def groups : Nat → Nat → List Char
  | 0, _ => zone
  | k + 1, n => if n = 0 then zone else digits 3 (n / 1000 ^ k) ++ groups k (n % 1000 ^ k)

theorem groups_zero (k : Nat) : groups k 0 = zone := by
  cases k with
  | zero => rfl
  | succ k => rw [groups, if_pos rfl]

theorem zone_lt_digits (n : Nat) (us : List Char) : zone < digits 3 n ++ us := by
  have hfirst := plus_lt_digit (n / 10 / 10 % 10) (Nat.mod_lt _ (by omega))
  simp only [digits, List.nil_append, List.cons_append, zone]
  exact List.cons_lt_cons_iff.mpr (.inl hfirst)

/-- The zone comes before a digit, so that a shorter fraction is the smaller one. -/
theorem groups_lt_iff {k n m : Nat} (hn : n < 1000 ^ k) (hm : m < 1000 ^ k) :
    groups k n < groups k m ↔ n < m := by
  induction k generalizing n m with
  | zero =>
      have hn : n = 0 := by simpa using hn
      have hm : m = 0 := by simpa using hm
      simp [hn, hm]
  | succ k ih =>
      by_cases hn0 : n = 0
      · by_cases hm0 : m = 0
        · simp [hn0, hm0]
        · rw [hn0, groups_zero, groups, if_neg hm0]
          exact ⟨fun _ => by omega, fun _ => zone_lt_digits _ _⟩
      · by_cases hm0 : m = 0
        · rw [hm0, groups_zero, groups, if_neg hn0]
          exact ⟨fun h => absurd (h.trans (zone_lt_digits _ _)) (lt_irrefl _), fun h => by omega⟩
        · have hpos : 0 < 1000 ^ k := Nat.pow_pos (by omega)
          have hn' : n / 1000 ^ k < 10 ^ 3 := Nat.div_lt_of_lt_mul hn
          have hm' : m / 1000 ^ k < 10 ^ 3 := Nat.div_lt_of_lt_mul hm
          rw [groups, groups, if_neg hn0, if_neg hm0, digits_append_lt_iff hn' hm',
            ih (Nat.mod_lt _ hpos) (Nat.mod_lt _ hpos),
            ← place_lt_iff (Nat.mod_lt _ hpos) (Nat.mod_lt _ hpos), Nat.div_add_mod',
            Nat.div_add_mod']

theorem fraction_zone {nano : Nat} (h : nano ≠ 0) :
    fraction nano ++ zone = '.' :: groups 3 nano := by
  have hsix : digits 6 (nano / 1000) =
      digits 3 (nano / 1000000) ++ digits 3 (nano % 1000000 / 1000) := by
    rw [digits_add 3 3]
    congr 2 <;> omega
  have hnine : digits 9 nano = digits 3 (nano / 1000000) ++
      (digits 3 (nano % 1000000 / 1000) ++ digits 3 (nano % 1000000 % 1000)) := by
    rw [digits_add 3 6, digits_add 3 3]
    congr 2
  unfold fraction
  rw [if_neg h, groups, if_neg h, groups]
  split
  · rename_i hmillis
    simp [hmillis]
  · rename_i hmillis
    split
    · rename_i hmicros
      have hmicros : nano % 1000000 % 1000 = 0 := by omega
      simp [hmillis, hmicros, hsix, groups_zero]
    · rename_i hmicros
      simp [hmillis, hmicros, hnine, groups]

theorem fraction_lt_iff {n m : Nat} (hn : n < 10 ^ 9) (hm : m < 10 ^ 9) :
    fraction n ++ zone < fraction m ++ zone ↔ n < m := by
  have hdot : ∀ us : List Char, zone < '.' :: us := fun us =>
    List.cons_lt_cons_iff.mpr (.inl (by decide))
  by_cases hn0 : n = 0
  · by_cases hm0 : m = 0
    · simp [hn0, hm0]
    · rw [fraction_zone hm0, hn0]
      exact ⟨fun _ => by omega, fun _ => hdot _⟩
  · by_cases hm0 : m = 0
    · rw [fraction_zone hn0, hm0]
      exact ⟨fun h => absurd (h.trans (hdot _)) (lt_irrefl _), fun h => by omega⟩
    · rw [fraction_zone hn0, fraction_zone hm0, cons_lt_cons_same, groups_lt_iff hn hm]

/-! ## The calendar -/

/-- Leap years of the proleptic Gregorian calendar. -/
def isLeap (year : Nat) : Bool := year % 4 == 0 && (year % 100 != 0 || year % 400 == 0)

def yearLength (year : Nat) : Nat := if isLeap year then 366 else 365

/-- The days of a month, where January is month 0. -/
def monthLength (year month : Nat) : Nat :=
  if month = 1 then (if isLeap year then 29 else 28)
  else if month = 3 ∨ month = 5 ∨ month = 8 ∨ month = 10 then 30
  else 31

theorem start_monthLength (year : Nat) : start (monthLength year) 12 = yearLength year := by
  cases h : isLeap year <;> simp [start, monthLength, yearLength, h]

/-- Every fourth year has a day more, except in three centuries of four. -/
theorem start_yearLength (year : Nat) :
    start yearLength year + (year + 99) / 100 =
      365 * year + (year + 3) / 4 + (year + 399) / 400 := by
  induction year with
  | zero => rfl
  | succ year ih =>
      have hlength : yearLength year = if year % 4 = 0 ∧ (year % 100 ≠ 0 ∨ year % 400 = 0)
          then 366 else 365 := by
        simp [yearLength, isLeap]
      rw [start, hlength]
      split <;> omega

example : start yearLength 1970 = 719528 := by
  have h := start_yearLength 1970
  omega

/-- A time of UTC in one of the years 0000 to 9999.  Months and days count from 0. -/
structure Civil where
  year : Nat
  month : Nat
  day : Nat
  hour : Nat
  minute : Nat
  second : Nat
  nano : Nat
  year_lt : year < 10000
  month_lt : month < 12
  day_lt : day < monthLength year month
  hour_lt : hour < 24
  minute_lt : minute < 60
  second_lt : second < 60
  nano_lt : nano < 10 ^ 9

namespace Civil

/-- The text of a time. -/
def text (time : Civil) : String :=
  String.ofList (digits 4 time.year ++ '-' :: (digits 2 (time.month + 1) ++ '-' ::
    (digits 2 (time.day + 1) ++ 'T' :: (digits 2 time.hour ++ ':' :: (digits 2 time.minute ++ ':' ::
      (digits 2 time.second ++ (fraction time.nano ++ zone)))))))

/-- The days from the first day of the year 0000. -/
def days (time : Civil) : Nat :=
  start yearLength time.year + (start (monthLength time.year) time.month + time.day)

def seconds (time : Civil) : Nat :=
  ((time.days * 24 + time.hour) * 60 + time.minute) * 60 + time.second

/-- The nanoseconds from the start of the year 0000. -/
def nanos (time : Civil) : Nat := time.seconds * 10 ^ 9 + time.nano

/-- The nanoseconds since the epoch, which follows the start of the year 0000 by 719528
days of 86400 seconds. -/
def instant (time : Civil) : Int := time.nanos - 62167219200 * 10 ^ 9

variable (a b : Civil)

theorem dayOfYear_lt (time : Civil) :
    start (monthLength time.year) time.month + time.day < yearLength time.year := by
  have hmonth : start (monthLength time.year) (time.month + 1) ≤
      start (monthLength time.year) 12 := start_mono time.month_lt
  rw [start_monthLength, start] at hmonth
  have hday := time.day_lt
  omega

theorem day_lt_100 (time : Civil) : time.day + 1 < 10 ^ 2 := by
  have hlength : monthLength time.year time.month ≤ 31 := by
    unfold monthLength
    split
    · split <;> omega
    · split <;> omega
  have hday := time.day_lt
  omega

theorem days_lt_iff :
    a.days < b.days ↔ a.year < b.year ∨ a.year = b.year ∧
      (a.month < b.month ∨ a.month = b.month ∧ a.day < b.day) := by
  unfold days
  rw [block_lt_iff a.dayOfYear_lt b.dayOfYear_lt]
  refine or_congr_right (and_congr_right fun hyear => ?_)
  have hb := b.day_lt
  rw [← hyear] at hb ⊢
  exact block_lt_iff a.day_lt hb

theorem days_eq_iff :
    a.days = b.days ↔ a.year = b.year ∧ a.month = b.month ∧ a.day = b.day := by
  have hless := days_lt_iff a b
  have hmore := days_lt_iff b a
  omega

/-- The order of the times is that of their parts, from the year on. -/
theorem nanos_lt_iff :
    a.nanos < b.nanos ↔
      a.year < b.year ∨ a.year = b.year ∧ (a.month < b.month ∨ a.month = b.month ∧
        (a.day < b.day ∨ a.day = b.day ∧ (a.hour < b.hour ∨ a.hour = b.hour ∧
          (a.minute < b.minute ∨ a.minute = b.minute ∧ (a.second < b.second ∨
            a.second = b.second ∧ a.nano < b.nano))))) := by
  have hdays := days_lt_iff a b
  have hsame := days_eq_iff a b
  have ha := a.nano_lt
  have hb := b.nano_lt
  unfold nanos seconds
  rw [place_lt_iff a.nano_lt b.nano_lt, place_lt_iff a.second_lt b.second_lt,
    place_lt_iff a.minute_lt b.minute_lt, place_lt_iff a.hour_lt b.hour_lt]
  have hhour := a.hour_lt
  have hhour' := b.hour_lt
  have hminute := a.minute_lt
  have hminute' := b.minute_lt
  have hsecond := a.second_lt
  have hsecond' := b.second_lt
  omega

/-- The order of the texts is the order of the parts. -/
theorem text_lt_iff : a.text < b.text ↔ a.nanos < b.nanos := by
  have hmonth : a.month + 1 < 10 ^ 2 := by have := a.month_lt; omega
  have hmonth' : b.month + 1 < 10 ^ 2 := by have := b.month_lt; omega
  have hhour : a.hour < 10 ^ 2 := by have := a.hour_lt; omega
  have hhour' : b.hour < 10 ^ 2 := by have := b.hour_lt; omega
  have hminute : a.minute < 10 ^ 2 := by have := a.minute_lt; omega
  have hminute' : b.minute < 10 ^ 2 := by have := b.minute_lt; omega
  have hsecond : a.second < 10 ^ 2 := by have := a.second_lt; omega
  have hsecond' : b.second < 10 ^ 2 := by have := b.second_lt; omega
  rw [nanos_lt_iff, String.lt_iff_toList_lt, text, text, String.toList_ofList,
    String.toList_ofList, digits_append_lt_iff a.year_lt b.year_lt, cons_lt_cons_same,
    digits_append_lt_iff hmonth hmonth', cons_lt_cons_same,
    digits_append_lt_iff a.day_lt_100 b.day_lt_100, cons_lt_cons_same,
    digits_append_lt_iff hhour hhour', cons_lt_cons_same,
    digits_append_lt_iff hminute hminute', cons_lt_cons_same,
    digits_append_lt_iff hsecond hsecond', fraction_lt_iff a.nano_lt b.nano_lt]
  simp only [Nat.add_lt_add_iff_right, Nat.add_right_cancel_iff]

theorem text_lt_iff_instant : a.text < b.text ↔ a.instant < b.instant := by
  rw [text_lt_iff]
  unfold instant
  omega

end Civil

/-! ## Times of instants -/

theorem start_years : start yearLength 10000 = 3652425 := by
  have hcount := start_yearLength 10000
  omega

/-- The year and the day in it, from the days since the start of the year 0000. -/
def yearOf (days : Nat) : Nat × Nat := block yearLength 10000 days

/-- The month and the day in it. -/
def monthOf (days : Nat) : Nat × Nat := block (monthLength (yearOf days).1) 12 (yearOf days).2

theorem yearOf_spec {days : Nat} (h : days < 3652425) :
    (yearOf days).1 < 10000 ∧ (yearOf days).2 < yearLength (yearOf days).1 ∧
      start yearLength (yearOf days).1 + (yearOf days).2 = days :=
  block_spec (by rw [start_years]; exact h)

theorem monthOf_spec {days : Nat} (h : days < 3652425) :
    (monthOf days).1 < 12 ∧ (monthOf days).2 < monthLength (yearOf days).1 (monthOf days).1 ∧
      start (monthLength (yearOf days).1) (monthOf days).1 + (monthOf days).2 =
        (yearOf days).2 :=
  block_spec (by rw [start_monthLength]; exact (yearOf_spec h).2.1)

namespace Civil

/-- The time so many nanoseconds behind the start of the year 0000. -/
def ofNanos (n : Nat) (h : n / 10 ^ 9 / 86400 < 3652425) : Civil where
  year := (yearOf (n / 10 ^ 9 / 86400)).1
  month := (monthOf (n / 10 ^ 9 / 86400)).1
  day := (monthOf (n / 10 ^ 9 / 86400)).2
  hour := n / 10 ^ 9 / 3600 % 24
  minute := n / 10 ^ 9 / 60 % 60
  second := n / 10 ^ 9 % 60
  nano := n % 10 ^ 9
  year_lt := (yearOf_spec h).1
  month_lt := (monthOf_spec h).1
  day_lt := (monthOf_spec h).2.1
  hour_lt := by omega
  minute_lt := by omega
  second_lt := by omega
  nano_lt := by omega

theorem days_ofNanos {n : Nat} (h : n / 10 ^ 9 / 86400 < 3652425) :
    (ofNanos n h).days = n / 10 ^ 9 / 86400 := by
  simp only [days, ofNanos, (monthOf_spec h).2.2, (yearOf_spec h).2.2]

theorem nanos_eq {time : Civil} {n : Nat} (hdays : time.days = n / 10 ^ 9 / 86400)
    (hhour : time.hour = n / 10 ^ 9 / 3600 % 24) (hminute : time.minute = n / 10 ^ 9 / 60 % 60)
    (hsecond : time.second = n / 10 ^ 9 % 60) (hnano : time.nano = n % 10 ^ 9) :
    time.nanos = n := by
  unfold nanos seconds
  omega

theorem nanos_ofNanos {n : Nat} (h : n / 10 ^ 9 / 86400 < 3652425) : (ofNanos n h).nanos = n :=
  nanos_eq (days_ofNanos h) rfl rfl rfl rfl

end Civil

/-- The instants of the years 0000 to 9999, in nanoseconds since the epoch. -/
def InYears (instant : Int) : Prop :=
  -62167219200 * 10 ^ 9 ≤ instant ∧ instant < 253402300800 * 10 ^ 9

instance (instant : Int) : Decidable (InYears instant) := inferInstanceAs (Decidable (_ ∧ _))

theorem InYears.nanos {instant : Int} (h : InYears instant) :
    ∃ n : Nat, instant + 62167219200 * 10 ^ 9 = n ∧ n / 10 ^ 9 / 86400 < 3652425 := by
  obtain ⟨hfirst, hlast⟩ := h
  obtain ⟨n, hn⟩ := Int.eq_ofNat_of_zero_le (show 0 ≤ instant + 62167219200 * 10 ^ 9 by omega)
  exact ⟨n, hn, by omega⟩

/-- Every such instant is the instant of a time. -/
theorem exists_civil {instant : Int} (h : InYears instant) :
    ∃ time : Civil, time.instant = instant := by
  obtain ⟨n, hn, hdays⟩ := h.nanos
  refine ⟨Civil.ofNanos n hdays, ?_⟩
  calc
    (Civil.ofNanos n hdays).instant =
        ((Civil.ofNanos n hdays).nanos : Int) - 62167219200 * 10 ^ 9 := rfl
    _ = instant + 62167219200 * 10 ^ 9 - 62167219200 * 10 ^ 9 := by
      rw [Civil.nanos_ofNanos, hn]
    _ = instant := Int.add_sub_cancel _ _

/-- The text of an instant in these years. -/
def textOf (instant : Int) : String :=
  if h : (instant + 62167219200 * 10 ^ 9).toNat / 10 ^ 9 / 86400 < 3652425 then
    (Civil.ofNanos (instant + 62167219200 * 10 ^ 9).toNat h).text
  else ""

namespace Civil

theorem text_eq_of_nanos {a b : Civil} (h : a.nanos = b.nanos) : a.text = b.text := by
  refine le_antisymm (not_lt.mp fun hless => ?_) (not_lt.mp fun hless => ?_)
  · have hnanos := (text_lt_iff b a).mp hless
    omega
  · have hnanos := (text_lt_iff a b).mp hless
    omega

theorem days_lt (time : Civil) : time.days < 3652425 := by
  have hyear : start yearLength (time.year + 1) ≤ start yearLength 10000 :=
    start_mono time.year_lt
  rw [start_years, start] at hyear
  have hday := time.dayOfYear_lt
  unfold days
  omega

theorem nanos_days (time : Civil) : time.nanos / 10 ^ 9 / 86400 = time.days := by
  have hhour := time.hour_lt
  have hminute := time.minute_lt
  have hsecond := time.second_lt
  have hnano := time.nano_lt
  unfold nanos seconds
  omega

theorem textOf_instant (time : Civil) : textOf time.instant = time.text := by
  have hnanos : (time.instant + 62167219200 * 10 ^ 9).toNat = time.nanos := by
    rw [instant, Int.sub_add_cancel, Int.toNat_natCast]
  have hdays : time.nanos / 10 ^ 9 / 86400 < 3652425 := by
    rw [nanos_days]
    exact time.days_lt
  unfold textOf
  simp only [hnanos, hdays, dite_true]
  exact text_eq_of_nanos (nanos_ofNanos hdays)

end Civil

end Lib.Rfc3339
