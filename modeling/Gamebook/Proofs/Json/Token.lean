import Gamebook.Json.Basic
import Gamebook.Json.Token

namespace Gamebook.Json

theorem hexValue?_hexDigit {n : Nat} (h : n < 16) : hexValue? (hexDigit n) = some n := by
  have hall : ∀ n : Fin 16, hexValue? (hexDigit n.val) = some n.val := by decide
  exact hall ⟨n, h⟩

/-- The piece that a character is scanned back as: its number, if that is what is written. -/
def unitOf (c : Char) : Unit16 :=
  if c.toNat < 0x20 ∧ c.toNat ≠ 0x08 ∧ c.toNat ≠ 0x0C ∧ c ≠ '\n' ∧ c ≠ '\r' ∧ c ≠ '\t' then
    .code c.toNat
  else .char c

theorem scanString_plain {c : Char} (hquote : c ≠ '"') (hslash : c ≠ '\\')
    (hgreat : ¬c.toNat < 0x20) (done : List Unit16) (rest : List Char) :
    scanString done (c :: rest) = scanString (.char c :: done) rest := by
  have hother : ∀ other, c ≠ other → ∀ tail, c :: rest ≠ other :: tail :=
    fun other hne tail heq => hne (List.cons.inj heq).1
  rw [scanString.eq_def]
  split
  · rename_i heq
    cases heq
  · rename_i heq
    exact absurd heq (hother '"' hquote _)
  · rename_i heq
    exact absurd heq (hother '\\' hslash _)
  · rename_i heq
    exact absurd heq (hother '\\' hslash _)
  · rename_i heq
    exact absurd heq (hother '\\' hslash _)
  · rename_i heq
    exact absurd heq (hother '\\' hslash _)
  · rename_i heq
    cases heq
    rw [if_neg hgreat]

theorem scanString_hex {n : Nat} (hsmall : n < 0x20) (done : List Unit16) (rest : List Char) :
    scanString done ('\\' :: 'u' :: '0' :: '0' :: hexDigit (n / 16) :: hexDigit n :: rest) =
      scanString (.code n :: done) rest := by
  have hzero : hexValue? '0' = some 0 := by decide
  have hhigh : hexValue? (hexDigit (n / 16)) = some (n / 16) := hexValue?_hexDigit (by omega)
  have hlow : hexValue? (hexDigit n) = some (n % 16) := by
    have hdigit : hexDigit n = hexDigit (n % 16) := by
      rw [hexDigit, hexDigit, Nat.mod_mod]
    rw [hdigit]
    exact hexValue?_hexDigit (Nat.mod_lt n (by omega))
  have hunit : hexUnit? '0' '0' (hexDigit (n / 16)) (hexDigit n) = some n := by
    simp only [hexUnit?, hzero, hhigh, hlow, Option.bind_eq_bind, Option.bind_some, Option.pure_def,
      Option.some.injEq]
    omega
  rw [scanString, hunit]

theorem scanString_escapeChar (c : Char) (done : List Unit16) (rest : List Char) :
    scanString done (escapeChar c ++ rest) = scanString (unitOf c :: done) rest := by
  have hnamed : ∀ letter, c ≠ letter → c.toNat ≠ letter.toNat :=
    fun letter hne heq => hne (Char.toNat_inj.mp heq)
  unfold escapeChar unitOf
  split
  · subst_vars
    rfl
  split
  · subst_vars
    rfl
  split
  · rename_i hcode
    obtain rfl : c = '\x08' := Char.toNat_inj.mp hcode
    rfl
  split
  · rename_i hcode
    obtain rfl : c = '\x0c' := Char.toNat_inj.mp hcode
    rfl
  split
  · subst_vars
    rfl
  split
  · subst_vars
    rfl
  split
  · subst_vars
    rfl
  rename_i hquote hslash hback hfeed hline hreturn htab
  split
  · rename_i hsmall
    rw [if_pos ⟨hsmall, hback, hfeed, hline, hreturn, htab⟩]
    exact scanString_hex hsmall done rest
  · rename_i hgreat
    rw [if_neg fun h => hgreat h.1]
    exact scanString_plain hquote hslash hgreat done rest

theorem scanString_flatMap (cs : List Char) (done : List Unit16) (rest : List Char) :
    scanString done (cs.flatMap escapeChar ++ '"' :: rest) =
      .closed (done.reverse ++ cs.map unitOf) rest := by
  induction cs generalizing done with
  | nil => simp [scanString]
  | cons c cs ih =>
      rw [List.flatMap_cons, List.append_assoc, scanString_escapeChar, ih]
      simp

theorem decodeUnits_unitOf (c : Char) (done : List Char) (units : List Unit16) :
    decodeUnits done (unitOf c :: units) = decodeUnits (c :: done) units := by
  unfold unitOf
  split
  · rename_i hsmall
    have hnotLow : isLow c.toNat = false := by
      simp only [isLow, Bool.and_eq_false_iff, decide_eq_false_iff_not]
      omega
    have hnotHigh : isHigh c.toNat = false := by
      simp only [isHigh, Bool.and_eq_false_iff, decide_eq_false_iff_not]
      omega
    rw [decodeUnits.eq_def]
    simp only [hnotLow, hnotHigh, Bool.false_eq_true, if_false, Char.ofNat_toNat]
  · rfl

theorem decodeUnits_map (cs done : List Char) :
    decodeUnits done (cs.map unitOf) = some (done.reverse ++ cs) := by
  induction cs generalizing done with
  | nil => simp [decodeUnits]
  | cons c cs ih =>
      rw [List.map_cons, decodeUnits_unitOf, ih]
      simp

theorem nextToken_quote (s : String) (rest : List Char) :
    nextToken (quote s ++ rest) = some (.text (.ok s), rest) := by
  have htoken : stringToken (s.toList.flatMap escapeChar ++ '"' :: rest) =
      (.text (.ok s), rest) := by
    rw [stringToken, scanString_flatMap]
    simp only [List.reverse_nil, List.nil_append, decodeUnits_map, String.ofList_toList]
  have hquote : quote s ++ rest = '"' :: (s.toList.flatMap escapeChar ++ '"' :: rest) := by
    simp [quote]
  rw [hquote]
  change some (stringToken _) = _
  rw [htoken]

/-- Whether a numeral is over before some characters: they do not go on with digits, a point or an
exponent. -/
def EndsNumeral (rest : List Char) : Prop :=
  ∀ c ∈ rest.head?, c.isDigit = false ∧ c ≠ '.' ∧ c ≠ 'e' ∧ c ≠ 'E'

theorem endsNumeral_cons {c : Char} (h : c.isDigit = false ∧ c ≠ '.' ∧ c ≠ 'e' ∧ c ≠ 'E')
    (rest : List Char) : EndsNumeral (c :: rest) := by
  intro d hd
  obtain rfl : c = d := Option.some.inj hd
  exact h

theorem head_toDigits_ne_zero {n : Nat} (hpos : 0 < n) : (Nat.toDigits 10 n).head? ≠ some '0' := by
  induction n using Nat.strongRecOn with
  | ind n ih =>
      by_cases hsmall : n < 10
      · have hall : ∀ n : Fin 10, 0 < n.val → ([n.val.digitChar] : List Char).head? ≠ some '0' := by
          decide
        rw [Nat.toDigits_of_lt_base hsmall]
        exact hall ⟨n, hsmall⟩ hpos
      · have hbase : 10 ≤ n := Nat.le_of_not_lt hsmall
        have hfront := ih (n / 10) (by omega) (by omega)
        obtain ⟨c, cs, hcons⟩ :=
          List.exists_cons_of_ne_nil (Nat.toDigits_ne_nil (b := 10) (n := n / 10))
        rw [Nat.toDigits_of_base_le (by decide) hbase, hcons]
        rw [hcons] at hfront
        exact hfront

theorem toDigits_leads (n : Nat) :
    ¬((Nat.toDigits 10 n).head? = some '0' ∧ (Nat.toDigits 10 n).length ≠ 1) := by
  rintro ⟨hhead, hlength⟩
  rcases Nat.eq_zero_or_pos n with hzero | hpos
  · subst hzero
    exact hlength (by rw [Nat.toDigits_zero]; rfl)
  · exact head_toDigits_ne_zero hpos hhead

namespace Numeral

variable {rest : List Char}

theorem scanDigits_digits {digits : List Char} (hdigits : ∀ c ∈ digits, c.isDigit = true)
    (hne : digits ≠ []) (hends : ∀ c ∈ rest.head?, c.isDigit = false) :
    scanDigits (digits ++ rest) = .ok (digits, rest) := by
  have hstop : rest.takeWhile Char.isDigit = [] ∧ rest.dropWhile Char.isDigit = rest := by
    cases rest with
    | nil => exact ⟨rfl, rfl⟩
    | cons c cs => simp [hends c rfl]
  rw [scanDigits, List.takeWhile_append_of_pos hdigits, List.dropWhile_append_of_pos hdigits,
    hstop.1, hstop.2, List.append_nil, if_neg hne]

theorem scanDigits_toDigits (n : Nat) (hends : EndsNumeral rest) :
    scanDigits (Nat.toDigits 10 n ++ rest) = .ok (Nat.toDigits 10 n, rest) :=
  scanDigits_digits (fun _ hc => Text.isDigit_toDigits hc) Nat.toDigits_ne_nil
    fun c hc => (hends c hc).1

theorem scanFraction_of_ends (hends : EndsNumeral rest) : scanFraction rest = .ok (none, rest) := by
  cases rest with
  | nil => rfl
  | cons c cs =>
      have hpoint := (hends c rfl).2.1
      rw [scanFraction.eq_def]
      split
      · simp_all
      · rfl

theorem scanExponent_of_ends (hends : EndsNumeral rest) : scanExponent rest = .ok (none, rest) := by
  cases rest with
  | nil => rfl
  | cons c cs =>
      obtain ⟨-, -, hlower, hupper⟩ := hends c rfl
      rw [scanExponent, if_neg (by simp [hlower, hupper])]

theorem scanMinus_of_digit {cs : List Char} (hdigit : ∀ c ∈ cs.head?, c.isDigit = true) :
    scanMinus cs = (false, cs) := by
  rw [scanMinus.eq_def]
  split
  · exact absurd (hdigit '-' rfl) (by decide)
  · rfl

theorem scanMinus_toDigits (n : Nat) (rest : List Char) :
    scanMinus (Nat.toDigits 10 n ++ rest) = (false, Nat.toDigits 10 n ++ rest) := by
  obtain ⟨c, cs, hcons⟩ := List.exists_cons_of_ne_nil (Nat.toDigits_ne_nil (b := 10) (n := n))
  have hdigit : c.isDigit = true := Text.isDigit_toDigits (n := n) (by simp [hcons])
  rw [hcons, List.cons_append]
  exact scanMinus_of_digit fun d hd => Option.some.inj hd ▸ hdigit

theorem scan_toDigits {cs : List Char} {negative : Bool} {n : Nat}
    (hsign : scanMinus cs = (negative, Nat.toDigits 10 n ++ rest)) (hends : EndsNumeral rest) :
    scan cs = .ok (⟨negative, Nat.toDigits 10 n, none, none⟩, rest) := by
  rw [scan, hsign]
  simp only [scanDigits_toDigits n hends, bind, Except.bind]
  rw [if_neg (toDigits_leads n)]
  simp only [scanFraction_of_ends hends, scanExponent_of_ends hends]
  rfl

end Numeral

theorem numberToken_decimal {n : Int} {rest : List Char} (hlow : -0x8000000000000000 ≤ n)
    (hhigh : n < 0x10000000000000000) (hends : EndsNumeral rest) :
    numberToken (Text.decimal n ++ rest) = (.number (.ok (.int n)), rest) := by
  cases n with
  | ofNat n =>
      have hbound : n < 0x10000000000000000 := by
        have := Int.ofNat_eq_natCast n
        omega
      have hsign := Numeral.scanMinus_toDigits n rest
      rw [Text.decimal, numberToken, Numeral.scan_toDigits hsign hends]
      simp only [Numeral.number?, Option.isNone_none, Bool.and_self, Nat.ofDigitChars_ten_toDigits]
      rw [if_pos ⟨trivial, Bool.false_ne_true, hbound⟩]
      rfl
  | negSucc n =>
      have hbound : n + 1 ≤ 0x8000000000000000 := by
        have := Int.negSucc_eq n
        omega
      have hsign : Numeral.scanMinus ('-' :: Nat.toDigits 10 (n + 1) ++ rest) =
          (true, Nat.toDigits 10 (n + 1) ++ rest) := rfl
      rw [Text.decimal, numberToken, Numeral.scan_toDigits hsign hends]
      simp only [Numeral.number?, Option.isNone_none, Bool.and_self, Nat.ofDigitChars_ten_toDigits]
      rw [if_neg fun h => h.2.1 trivial, if_pos ⟨trivial, trivial, Nat.succ_ne_zero n, hbound⟩]
      rfl

theorem tokenAt_digit {c : Char} (hdigit : c.isDigit = true) (rest : List Char) :
    tokenAt c rest = numberToken (c :: rest) := by
  rw [tokenAt.eq_def]
  split <;> simp_all

theorem nextToken_decimal {n : Int} {rest : List Char} (hlow : -0x8000000000000000 ≤ n)
    (hhigh : n < 0x10000000000000000) (hends : EndsNumeral rest) :
    nextToken (Text.decimal n ++ rest) = some (.number (.ok (.int n)), rest) := by
  have htoken := numberToken_decimal hlow hhigh hends
  cases n with
  | ofNat n =>
      obtain ⟨c, cs, hcons⟩ := List.exists_cons_of_ne_nil (Nat.toDigits_ne_nil (b := 10) (n := n))
      have hdigit : c.isDigit = true := Text.isDigit_toDigits (n := n) (by simp [hcons])
      have hspace : isSpace c = false := by
        cases hspace : isSpace c with
        | false => rfl
        | true =>
            simp only [isSpace, Bool.or_eq_true, decide_eq_true_eq] at hspace
            rcases hspace with ((rfl | rfl) | rfl) | rfl <;> simp at hdigit
      rw [Text.decimal, hcons, List.cons_append] at htoken ⊢
      rw [nextToken, List.dropWhile_cons, hspace]
      simp only [Bool.false_eq_true, if_false]
      rw [tokenAt_digit hdigit, htoken]
  | negSucc n =>
      rw [Text.decimal] at htoken ⊢
      change some (numberToken _) = _
      rw [← htoken]
      rfl

theorem isSpace_newLine {level : Nat} {c : Char} (hc : c ∈ newLine level) : isSpace c = true := by
  rw [newLine, List.mem_cons] at hc
  rcases hc with rfl | hc
  · decide
  · rw [List.eq_of_mem_replicate hc]
    decide

end Gamebook.Json
