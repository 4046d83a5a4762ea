import Gamebook.Json.Flaw

namespace Gamebook.Json

/-- A numeral by its parts: a sign, digits, digits after a point, and an exponent. -/
structure Numeral where
  negative : Bool
  whole : List Char
  fraction : Option (List Char)
  exponent : Option (Bool × List Char)
  deriving Repr

/-- What a numeral is worth. -/
inductive Number where
  | int (n : Int)
  | float
  deriving DecidableEq, Repr

namespace Numeral

/-- One or more digits, and what follows them. Where there is no digit the text is malformed, or
ended if there are no characters left. -/
def scanDigits (cs : List Char) : Except Flaw (List Char × List Char) :=
  if cs.takeWhile Char.isDigit = [] then .error (if cs = [] then .ended else .malformed)
  else .ok (cs.takeWhile Char.isDigit, cs.dropWhile Char.isDigit)

/-- The digits behind a point, if there is one. -/
def scanFraction : List Char → Except Flaw (Option (List Char) × List Char)
  | '.' :: rest => (scanDigits rest).map fun (digits, rest) => (some digits, rest)
  | cs => .ok (none, cs)

/-- Whether characters begin with a minus sign, and the characters after the sign. -/
def scanMinus : List Char → Bool × List Char
  | '-' :: rest => (true, rest)
  | cs => (false, cs)

/-- Whether an exponent is negative, and the characters after its sign, if it has one. -/
def scanSign : List Char → Bool × List Char
  | '+' :: rest => (false, rest)
  | cs => scanMinus cs

/-- The sign and the digits of an exponent, if there is one. -/
def scanExponent : List Char → Except Flaw (Option (Bool × List Char) × List Char)
  | [] => .ok (none, [])
  | c :: rest =>
    if c = 'e' ∨ c = 'E' then
      let (negative, rest) := scanSign rest
      (scanDigits rest).map fun (digits, rest) => (some (negative, digits), rest)
    else .ok (none, c :: rest)

/-- The numeral that characters begin with, and the characters after it. The whole part is zero or
does not begin with it. -/
def scan (cs : List Char) : Except Flaw (Numeral × List Char) := do
  let (negative, rest) := scanMinus cs
  let (whole, rest) ← scanDigits rest
  if whole.head? = some '0' ∧ whole.length ≠ 1 then .error .malformed
  else
    let (fraction, rest) ← scanFraction rest
    let (exponent, rest) ← scanExponent rest
    return (⟨negative, whole, fraction, exponent⟩, rest)

theorem length_scanDigits {cs digits rest : List Char} (h : scanDigits cs = .ok (digits, rest)) :
    rest.length < cs.length := by
  rw [scanDigits] at h
  split at h
  · cases h
  · rename_i hne
    cases h
    have hlen := congrArg List.length
      (List.takeWhile_append_dropWhile (p := Char.isDigit) (l := cs))
    have hpos := List.length_pos_iff.mpr hne
    rw [List.length_append] at hlen
    omega

theorem length_scanFraction {cs rest : List Char} {fraction : Option (List Char)}
    (h : scanFraction cs = .ok (fraction, rest)) : rest.length ≤ cs.length := by
  rw [scanFraction.eq_def] at h
  split at h
  · rename_i tail
    cases hd : scanDigits tail with
    | error f => rw [hd] at h; cases h
    | ok found =>
      rw [hd] at h
      cases h
      have hlen := length_scanDigits hd
      simp only [List.length_cons]
      omega
  · cases h
    exact Nat.le_refl _

theorem length_scanMinus (cs : List Char) : (scanMinus cs).2.length ≤ cs.length := by
  rw [scanMinus.eq_def]
  split <;> simp

theorem length_scanSign (cs : List Char) : (scanSign cs).2.length ≤ cs.length := by
  rw [scanSign.eq_def]
  split
  · simp
  · exact length_scanMinus cs

theorem length_scanExponent {cs rest : List Char} {exponent : Option (Bool × List Char)}
    (h : scanExponent cs = .ok (exponent, rest)) : rest.length ≤ cs.length := by
  cases cs with
  | nil => cases h; exact Nat.le_refl _
  | cons c tail =>
    rw [scanExponent] at h
    split at h
    · have hsign := length_scanSign tail
      cases hd : scanDigits (scanSign tail).2 with
      | error f => simp [hd, Except.map] at h
      | ok found =>
        simp only [hd, Except.map, Except.ok.injEq, Prod.mk.injEq] at h
        have hlen := length_scanDigits hd
        simp only [List.length_cons, ← h.2]
        omega
    · cases h
      exact Nat.le_refl _

theorem length_scan {cs rest : List Char} {n : Numeral} (h : scan cs = .ok (n, rest)) :
    rest.length < cs.length := by
  have hminus := length_scanMinus cs
  rw [scan] at h
  simp only [bind, Except.bind] at h
  split at h
  · cases h
  · rename_i digits hdigits
    have hlen := length_scanDigits hdigits
    split at h
    · cases h
    · split at h
      · cases h
      · rename_i fraction hfraction
        have hfrac := length_scanFraction hfraction
        split at h
        · cases h
        · rename_i exponent hexponent
          have hexp := length_scanExponent hexponent
          cases h
          omega

/-- The digits of a numeral that count: a number of at most 64 bits, and the power of ten that it
is to be multiplied by. -/
structure Significand where
  value : Nat
  scale : Int

/-- Takes digits into a 64-bit number as long as they fit; the other digits are left. -/
def absorb (value : Nat) : List Char → Nat × List Char
  | [] => (value, [])
  | c :: rest =>
    let next := value * 10 + (c.toNat - '0'.toNat)
    if next < 0x10000000000000000 then absorb next rest else (value, c :: rest)

/-- The digits of a numeral that count. A digit of the whole part that does not fit makes the scale
greater by one, and a digit of the fraction that fits makes it less by one. -/
def significand (n : Numeral) : Significand :=
  let fraction := n.fraction.getD []
  let (whole, left) := absorb 0 n.whole
  let (value, rest) := absorb whole fraction
  ⟨value, (left.length : Int) - ((fraction.length : Int) - rest.length)⟩

/-- A natural number rounded to the 53 binary digits of a double, halves to even. -/
def roundDouble (n : Nat) : Nat :=
  if n < 1 <<< 53 then n
  else
    let unit := 1 <<< (n.log2 - 52)
    let down := n / unit
    let twice := 2 * (n % unit)
    let up := decide (unit < twice) || (decide (twice = unit) && down % 2 = 1)
    (if up then down + 1 else down) * unit

/-- Whether the double nearest to a significand, multiplied by the double nearest to a power of
ten, is beyond the greatest double. -/
def overflows (s : Significand) (exponent : Int) : Bool :=
  if s.value = 0 ∨ exponent < 0 then false
  else if 308 < exponent then true
  else
    decide ((1 <<< 1024) - (1 <<< 970) ≤
      roundDouble s.value * roundDouble (Nat.pow 10 exponent.toNat))

/-- What a numeral is worth, if it is not too great. Negative zero and whole numbers of more than
64 bits are floating point numbers. -/
def number? (n : Numeral) : Option Number :=
  let magnitude := Nat.ofDigitChars 10 n.whole 0
  let isWhole := n.fraction.isNone && n.exponent.isNone
  if isWhole ∧ ¬n.negative ∧ magnitude < 0x10000000000000000 then some (.int magnitude)
  else if isWhole ∧ n.negative ∧ magnitude ≠ 0 ∧ magnitude ≤ 0x8000000000000000 then
    some (.int (-magnitude))
  else
    let s := n.significand
    match n.exponent with
    | none => if overflows s s.scale then none else some .float
    | some (negative, digits) =>
      let power := Nat.ofDigitChars 10 digits 0
      if 0x80000000 ≤ power then
        if s.value ≠ 0 ∧ ¬negative then none else some .float
      else if overflows s (if negative then s.scale - power else s.scale + power) then none
      else some .float

end Numeral

end Gamebook.Json
