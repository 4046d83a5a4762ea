import Gamebook.Proofs.Calendar.Dates
import Gamebook.Proofs.Json.RoundTrip
import Gamebook.Proofs.Text.Trimming

namespace Gamebook

namespace Calendar

theorem scan_bind {α β : Type} {scan : Scan α} {value : α} {cs rest : List Char}
    (h : scan cs = some (value, rest)) (f : α → Scan β) : (scan >>= f) cs = f value rest := by
  change (scan cs).bind _ = _
  rw [h]
  rfl

theorem isDigit_padded {width n : Nat} {c : Char} (hc : c ∈ padded width n) : c.isDigit = true := by
  rcases List.mem_append.mp hc with hzero | hdigit
  · rw [List.eq_of_mem_replicate hzero]
    decide
  · exact Text.isDigit_toDigits hdigit

theorem ofDigitChars_padded (width n : Nat) : Nat.ofDigitChars 10 (padded width n) 0 = n := by
  rw [padded, Nat.ofDigitChars_append, Nat.ofDigitChars_replicate_zero, Nat.mul_zero,
    Nat.ofDigitChars_ten_toDigits]

theorem padded_ne_nil (width n : Nat) : padded width n ≠ [] := by
  intro hnil
  have hdigits : (Nat.toDigits 10 n) = [] := (List.append_eq_nil_iff.mp hnil).2
  exact Nat.toDigits_ne_nil hdigits

theorem length_padded {width n : Nat} (hpos : 0 < width) (hn : n < Nat.pow 10 width) :
    (padded width n).length = width := by
  have hdigits : (Nat.toDigits 10 n).length ≤ width :=
    (Nat.length_toDigits_le_iff (by decide) hpos).mpr hn
  rw [padded, List.length_append, List.length_replicate]
  omega

theorem skipBlanks_cons {c : Char} (hc : Text.isBlankChar c = false) (rest : List Char) :
    skipBlanks (c :: rest) = some ((), c :: rest) := by
  change some ((), Text.trimLeft (c :: rest)) = _
  rw [Text.trimLeft, List.dropWhile_cons_of_neg (by simp [hc])]

theorem skipBlanks_digits {found : List Char} (hdigits : ∀ c ∈ found, c.isDigit = true)
    (hne : found ≠ []) (rest : List Char) :
    skipBlanks (found ++ rest) = some ((), found ++ rest) := by
  cases found with
  | nil => exact absurd rfl hne
  | cons c found =>
      exact skipBlanks_cons (Text.isBlankChar_of_isDigit (hdigits c (List.mem_cons_self ..))) _

theorem digits_append {most : Nat} {found rest : List Char}
    (hdigits : ∀ c ∈ found, c.isDigit = true) (hne : found ≠ []) (hmost : found.length ≤ most)
    (hend : found.length = most ∨ ∀ c ∈ rest.head?, c.isDigit = false) :
    digits most (found ++ rest) = some (found, rest) := by
  have hfound : ((found ++ rest).take most).takeWhile Char.isDigit = found := by
    rw [List.take_append, List.take_of_length_le hmost, List.takeWhile_append_of_pos hdigits]
    rcases hend with hlength | hrest
    · simp [hlength]
    · cases rest with
      | nil => simp
      | cons c rest =>
          have hc := hrest c rfl
          cases hcount : most - found.length with
          | zero => simp
          | succ count => simp [hc]
  simp only [digits, hfound, if_neg hne, List.drop_left]

theorem number_padded {n : Nat} (hn : n < 100) (rest : List Char) :
    number 2 (padded 2 n ++ rest) = some (n, rest) := by
  have hdigits : ∀ c ∈ padded 2 n, c.isDigit = true := fun c hc => isDigit_padded hc
  have hne := padded_ne_nil 2 n
  have hlength : (padded 2 n).length = 2 := length_padded (by decide) (by simpa using hn)
  rw [number, scan_bind (skipBlanks_digits hdigits hne rest),
    scan_bind (digits_append hdigits hne (by omega) (Or.inl hlength)), ofDigitChars_padded]
  rfl

theorem mark_cons {c : Char} (hc : Text.isBlankChar c = false) (rest : List Char) :
    mark c (c :: rest) = some ((), rest) := by
  have hone : one (· = c) (c :: rest) = some (c, rest) := by
    simp [one]
  rw [mark, scan_bind (skipBlanks_cons hc rest), scan_bind hone]
  rfl

theorem year_unsigned {found : List Char} (hdigits : ∀ c ∈ found, c.isDigit = true)
    (hne : found ≠ []) (hlength : found.length = 4) (rest : List Char) :
    year (found ++ rest) = some ((Nat.ofDigitChars 10 found 0 : Int), rest) := by
  have hskip := skipBlanks_digits hdigits hne rest
  have hread : digits 4 (found ++ rest) = some (found, rest) :=
    digits_append hdigits hne (by omega) (.inl hlength)
  have hfirst : ∃ first others, found ++ rest = first :: others ∧ first.isDigit = true := by
    cases found with
    | nil => exact absurd rfl hne
    | cons first found =>
        exact ⟨first, found ++ rest, rfl, hdigits first (List.mem_cons_self ..)⟩
  obtain ⟨first, others, hcs, hdigit⟩ := hfirst
  rw [hcs] at hskip hread ⊢
  have hget : (get : Scan (List Char)) (first :: others) =
      some (first :: others, first :: others) := rfl
  rw [year, scan_bind hskip, scan_bind hget]
  have hminus : first ≠ '-' := by
    rintro rfl
    exact absurd hdigit (by decide)
  have hplus : first ≠ '+' := by
    rintro rfl
    exact absurd hdigit (by decide)
  let plain : Scan Int := do return (Nat.ofDigitChars 10 (← digits 4) 0 : Nat)
  refine (congrFun (g := plain) ?_ _).trans ?_
  · split
    · next hsign => exact absurd (List.cons.inj hsign).1 hminus
    · next hsign => exact absurd (List.cons.inj hsign).1 hplus
    · rfl
  · simp only [plain]
    rw [scan_bind hread]
    rfl

theorem year_signed {sign : Char} (hsign : sign = '-' ∨ sign = '+') {found : List Char}
    (hdigits : ∀ c ∈ found, c.isDigit = true) (hne : found ≠ []) {rest : List Char}
    (hend : ∀ c ∈ rest.head?, c.isDigit = false) :
    year (sign :: (found ++ rest)) =
      some (if sign = '-' then -((Nat.ofDigitChars 10 found 0 : Nat) : Int)
        else (Nat.ofDigitChars 10 found 0 : Nat), rest) := by
  have hread : digits (found ++ rest).length (found ++ rest) = some (found, rest) :=
    digits_append hdigits hne (by simp) (.inr hend)
  have hget : (get : Scan (List Char)) (sign :: (found ++ rest)) =
      some (sign :: (found ++ rest), sign :: (found ++ rest)) := rfl
  have hset : (set (found ++ rest) : Scan Unit) (sign :: (found ++ rest)) =
      some ((), found ++ rest) := rfl
  rcases hsign with rfl | rfl
  · rw [year, scan_bind (skipBlanks_cons (by decide) _), scan_bind hget]
    simp only
    rw [scan_bind hset, scan_bind hread]
    rfl
  · rw [year, scan_bind (skipBlanks_cons (by decide) _), scan_bind hget]
    simp only
    rw [scan_bind hset, scan_bind hread]
    rfl

theorem year_yearText (y : Int) {rest : List Char} (hend : ∀ c ∈ rest.head?, c.isDigit = false) :
    year (yearText y ++ rest) = some (y, rest) := by
  rw [yearText]
  split
  · have hfour : y.toNat < Nat.pow 10 4 := by
      change _ < 10_000
      omega
    have hlength : (padded 4 y.toNat).length = 4 := length_padded (by decide) hfour
    rw [year_unsigned (fun c hc => isDigit_padded hc) (padded_ne_nil 4 y.toNat) hlength,
      ofDigitChars_padded]
    simp only [Option.some.injEq, Prod.mk.injEq, and_true]
    omega
  · have hsign : (if y < 0 then '-' else '+') = '-' ∨ (if y < 0 then '-' else '+') = '+' := by
      split
      · exact .inl rfl
      · exact .inr rfl
    rw [List.cons_append, year_signed hsign (fun c hc => isDigit_padded hc)
      (padded_ne_nil 4 y.natAbs) hend, ofDigitChars_padded]
    simp only [Option.some.injEq, Prod.mk.injEq, and_true]
    by_cases hneg : y < 0
    · simp only [if_pos hneg]
      rw [if_pos trivial]
      omega
    · simp only [if_neg hneg]
      rw [if_neg (by decide)]
      omega

/-- The text of a date. -/
def dateText (date : Date) : List Char :=
  yearText date.year ++ '-' :: padded 2 date.month ++ '-' :: padded 2 date.day

theorem date_dateText {d : Date} (hdate : d.IsDate) (hyear : isYear d.year = true)
    (rest : List Char) : date (dateText d ++ rest) = some (d, rest) := by
  have hday : d.day < 100 := by
    have hle := hdate.day_le
    rw [daysInMonth] at hle
    split at hle
    · split at hle <;> omega
    · split at hle <;> omega
  have hmonth := hdate.month_le
  have hhyphen : Text.isBlankChar '-' = false := by decide
  have hdash : ∀ c ∈ ('-' :: (padded 2 d.month ++ '-' :: (padded 2 d.day ++ rest))).head?,
      c.isDigit = false := by
    rintro c hc
    cases hc
    decide
  have hvalid : isYear d.year = true ∧ 1 ≤ d.month ∧ d.month ≤ 12 ∧ 1 ≤ d.day ∧
      d.day ≤ daysInMonth d.year d.month :=
    ⟨hyear, hdate.month_pos, hdate.month_le, hdate.day_pos, hdate.day_le⟩
  simp only [dateText, List.append_assoc, List.cons_append]
  rw [date, scan_bind (year_yearText d.year hdash), scan_bind (mark_cons hhyphen _),
    scan_bind (number_padded (by omega) _), scan_bind (mark_cons hhyphen _),
    scan_bind (number_padded hday rest), if_pos hvalid]
  rfl

theorem fraction_padded {width n : Nat} (hpos : 0 < width) (hwidth : width ≤ 9)
    (hn : n < Nat.pow 10 width) {rest : List Char} (hend : ∀ c ∈ rest.head?, c.isDigit = false) :
    fraction ('.' :: (padded width n ++ rest)) = some (n * Nat.pow 10 (9 - width), rest) := by
  have hlength := length_padded hpos hn
  have hread : digits 9 (padded width n ++ rest) = some (padded width n, rest) :=
    digits_append (fun c hc => isDigit_padded hc) (padded_ne_nil width n) (by omega) (.inr hend)
  have hget : (get : Scan (List Char)) ('.' :: (padded width n ++ rest)) =
      some ('.' :: (padded width n ++ rest), '.' :: (padded width n ++ rest)) := rfl
  have hset : (set (padded width n ++ rest) : Scan Unit) ('.' :: (padded width n ++ rest)) =
      some ((), padded width n ++ rest) := rfl
  have hdrop : (modify (·.dropWhile Char.isDigit) : Scan Unit) rest = some ((), rest) := by
    change some ((), rest.dropWhile Char.isDigit) = _
    cases rest with
    | nil => rfl
    | cons c rest =>
        have hc := hend c rfl
        rw [List.dropWhile_cons_of_neg (by simp [hc])]
  rw [fraction, scan_bind hget]
  simp only
  rw [scan_bind hset, scan_bind hread, scan_bind hdrop, ofDigitChars_padded, hlength]
  rfl

theorem fraction_fractionText {nano : Nat} (hnano : nano < 1_000_000_000) :
    fraction (fractionText nano ++ ['Z']) = some (nano, ['Z']) := by
  have hend : ∀ c ∈ ['Z'].head?, c.isDigit = false := by
    rintro c hc
    cases hc
    decide
  have hscale {n scale : Nat} (h : n * scale = nano) :
      some (n * scale, ['Z']) = some (nano, ['Z']) := by rw [h]
  rw [fractionText]
  split
  · subst nano
    rfl
  · split
    · have hthree : nano / 1_000_000 < Nat.pow 10 3 := by
        change _ < 1_000
        omega
      have hmillis : nano / 1_000_000 * 1_000_000 = nano := by omega
      rw [List.cons_append, fraction_padded (by decide) (by decide) hthree hend]
      exact hscale hmillis
    · split
      · have hsix : nano / 1_000 < Nat.pow 10 6 := by
          change _ < 1_000_000
          omega
        have hmicros : nano / 1_000 * 1_000 = nano := by omega
        rw [List.cons_append, fraction_padded (by decide) (by decide) hsix hend]
        exact hscale hmicros
      · rw [List.cons_append, fraction_padded (by decide) (by decide) hnano hend]
        exact hscale (Nat.mul_one nano)

/-- The text of a time of day. -/
def timeText (second nano : Nat) : List Char :=
  padded 2 (second / 60 / 60) ++ ':' :: padded 2 (second / 60 % 60) ++
    ':' :: padded 2 (second % 60 + nano / 1_000_000_000) ++
    fractionText (nano % 1_000_000_000)

end Calendar

/-- Whether the clock can show a moment: its second is one of the day, its nanoseconds are within
this second, or within the leap second behind the last second of a minute, and its year is one of
those that moments may lie in. -/
structure Instant.IsMoment (moment : Instant) : Prop where
  second_lt : moment.second < 86400
  nano_lt : moment.nano < 1_000_000_000 ∨
    moment.second % 60 = 59 ∧ moment.nano < 2_000_000_000
  year : Calendar.isYear (Calendar.Date.ofDays moment.day).year = true

/-- The moment from which days are counted. -/
def Instant.epoch : Instant := ⟨0, 0, 0⟩

theorem Instant.isMoment_epoch : epoch.IsMoment :=
  ⟨by decide, by decide, by decide⟩

namespace Calendar

theorem time_timeText {moment : Instant} (hmoment : moment.IsMoment) :
    time (timeText moment.second moment.nano ++ ['Z']) =
      some ((moment.second, moment.nano), ['Z']) := by
  obtain ⟨hsecond, hnano, -⟩ := hmoment
  have hcolon : Text.isBlankChar ':' = false := by decide
  have hleap : moment.nano / 1_000_000_000 = 0 ∨
      moment.nano / 1_000_000_000 = 1 ∧ moment.second % 60 = 59 := by
    omega
  have hvalid : moment.second / 60 / 60 ≤ 23 ∧ moment.second / 60 % 60 ≤ 59 ∧
      moment.second % 60 + moment.nano / 1_000_000_000 ≤ 60 := by
    omega
  simp only [timeText, List.append_assoc, List.cons_append]
  rw [time, scan_bind (number_padded (by omega) _), scan_bind (mark_cons hcolon _),
    scan_bind (number_padded (by omega) _), scan_bind (mark_cons hcolon _),
    scan_bind (number_padded (by omega) _),
    scan_bind (fraction_fractionText (Nat.mod_lt _ (by decide))), if_pos hvalid]
  change some ((_, _), ['Z']) = _
  simp only [Option.some.injEq, Prod.mk.injEq, and_true]
  rcases hleap with hleap | ⟨hleap, hlast⟩
  · rw [hleap, if_neg (by omega)]
    omega
  · rw [hleap, if_pos (by omega)]
    omega

theorem instant_text {moment : Instant} (hmoment : moment.IsMoment) :
    instant moment.text.toList = some (moment, []) := by
  have htext : moment.text.toList = dateText (Date.ofDays moment.day) ++
      'T' :: (timeText moment.second moment.nano ++ ['Z']) := by
    simp [Instant.text, dateText, timeText]
  have hdate := date_dateText (Date.isDate_ofDays moment.day) hmoment.year
    ('T' :: (timeText moment.second moment.nano ++ ['Z']))
  have hletter : one (fun c => c = 'T' || c = 't' || c = ' ')
      ('T' :: (timeText moment.second moment.nano ++ ['Z'])) =
        some ('T', timeText moment.second moment.nano ++ ['Z']) := rfl
  have hoffset : offset ['Z'] = some (0, []) := rfl
  have hskip : skipBlanks [] = some ((), []) := rfl
  have hsecond := hmoment.second_lt
  have hday : (moment.day * 86400 + (moment.second : Int) - 0) / 86400 = moment.day := by omega
  have hrest : ((moment.day * 86400 + (moment.second : Int) - 0) % 86400).toNat =
      moment.second := by omega
  rw [htext, instant, scan_bind hdate, scan_bind hletter, scan_bind (time_timeText hmoment)]
  simp only
  rw [scan_bind hoffset, scan_bind hskip, Date.toDays_ofDays, hday, if_pos hmoment.year, hrest]
  rfl

end Calendar

namespace Instant

open Json

theorem read?_text {moment : Instant} (hmoment : moment.IsMoment) :
    read? moment.text = some moment := by
  rw [read?, Calendar.instant_text hmoment]

theorem keeps {moment : Instant} (hmoment : moment.IsMoment) : codec.Keeps moment := by
  refine ⟨.text moment.text, ?_⟩
  simp only [codec, tree, read?_text hmoment]

end Instant

end Gamebook
