import Gamebook.Text.Integer
import Mathlib.Algebra.Group.Int.Defs
import Mathlib.Data.List.Induction

namespace Gamebook.Text

variable {c : Char} {cs : List Char} {s : String}

theorem isDigit_iff : c.isDigit = true ↔ '0' ≤ c ∧ c ≤ '9' := by
  simp [Char.isDigit, Char.le_def]

/-- Decimal digits, and the number that they name. -/
inductive Digits : List Char → Nat → Prop
  | single {c : Char} (hc : '0' ≤ c ∧ c ≤ '9') : Digits [c] (c.toNat - '0'.toNat)
  | concat {cs : List Char} {n : Nat} {c : Char} (hcs : Digits cs n) (hc : '0' ≤ c ∧ c ≤ '9') :
    Digits (cs ++ [c]) (10 * n + (c.toNat - '0'.toNat))

/-- Decimal digits with at most one sign before them, and the number that they name. -/
inductive Denotes : List Char → Int → Prop
  | unsigned {digits : List Char} {n : Nat} (hdigits : Digits digits n) : Denotes digits n
  | plus {digits : List Char} {n : Nat} (hdigits : Digits digits n) : Denotes ('+' :: digits) n
  | minus {digits : List Char} {n : Nat} (hdigits : Digits digits n) : Denotes ('-' :: digits) (-n)

theorem Digits.readNat?_eq {n : Nat} (hdigits : Digits cs n) : readNat? cs = some n := by
  induction hdigits with
  | single hc => simp [readNat?, isDigit_iff.mpr hc, Nat.ofDigitChars_cons]
  | @concat cs n c hcs hc ih =>
      rw [readNat?] at ih ⊢
      split at ih
      · rename_i hall
        rw [Option.some_inj] at ih
        rw [if_pos (by simp [hall, isDigit_iff.mpr hc]), Nat.ofDigitChars_append, ih,
          Nat.ofDigitChars_cons, Nat.ofDigitChars_nil]
      · cases ih

theorem exists_digits (hne : cs ≠ []) (hall : ∀ c ∈ cs, '0' ≤ c ∧ c ≤ '9') : ∃ n, Digits cs n := by
  induction cs using List.reverseRecOn with
  | nil => exact absurd rfl hne
  | append_singleton cs c ih =>
      have hc : '0' ≤ c ∧ c ≤ '9' := hall c (by simp)
      by_cases hnil : cs = []
      · subst hnil
        exact ⟨_, .single hc⟩
      · obtain ⟨n, hcs⟩ := ih hnil fun c hc => hall c (by simp [hc])
        exact ⟨_, .concat hcs hc⟩

theorem readNat?_eq_some_iff {n : Nat} : readNat? cs = some n ↔ Digits cs n := by
  constructor
  · intro hread
    have hall : cs ≠ [] ∧ cs.all Char.isDigit = true := by
      rw [readNat?] at hread
      split at hread
      · assumption
      · cases hread
    obtain ⟨m, hdigits⟩ := exists_digits hall.1 fun c hc =>
      isDigit_iff.mp (List.all_eq_true.mp hall.2 c hc)
    rw [hdigits.readNat?_eq, Option.some_inj] at hread
    rwa [← hread]
  · exact Digits.readNat?_eq

theorem Digits.isDigit_of_mem {n : Nat} (hdigits : Digits cs n) (hmem : c ∈ cs) :
    c.isDigit = true := by
  induction hdigits with
  | single hc =>
      rw [List.mem_singleton.mp hmem]
      exact isDigit_iff.mpr hc
  | concat hcs hc ih =>
      rcases List.mem_append.mp hmem with hfront | hlast
      · exact ih hfront
      · rw [List.mem_singleton.mp hlast]
        exact isDigit_iff.mpr hc

theorem Denotes.mem_cases {n : Int} (hdenotes : Denotes cs n) (hmem : c ∈ cs) :
    c.isDigit = true ∨ c = '-' ∨ c = '+' := by
  cases hdenotes with
  | unsigned hdigits => exact Or.inl (hdigits.isDigit_of_mem hmem)
  | minus hdigits =>
      rcases List.mem_cons.mp hmem with hsign | hmem
      · exact Or.inr (Or.inl hsign)
      · exact Or.inl (hdigits.isDigit_of_mem hmem)
  | plus hdigits =>
      rcases List.mem_cons.mp hmem with hsign | hmem
      · exact Or.inr (Or.inr hsign)
      · exact Or.inl (hdigits.isDigit_of_mem hmem)

theorem readInt?_minus (digits : List Char) :
    readInt? ('-' :: digits) = (readNat? digits).map fun n : Nat => -(n : Int) := by
  rw [readInt?]
  cases readNat? digits <;> rfl

theorem readInt?_plus (digits : List Char) :
    readInt? ('+' :: digits) = (readNat? digits).map fun n : Nat => (n : Int) := by
  rw [readInt?]
  cases readNat? digits <;> rfl

theorem readInt?_unsigned (hminus : ∀ digits, cs ≠ '-' :: digits)
    (hplus : ∀ digits, cs ≠ '+' :: digits) :
    readInt? cs = (readNat? cs).map fun n : Nat => (n : Int) := by
  rw [readInt?.eq_def]
  split
  · exact absurd rfl (hminus _)
  · exact absurd rfl (hplus _)
  · cases readNat? cs <;> rfl

theorem signed_cases (cs : List Char) :
    (∃ digits, cs = '-' :: digits) ∨ (∃ digits, cs = '+' :: digits) ∨
      (∀ digits, cs ≠ '-' :: digits) ∧ ∀ digits, cs ≠ '+' :: digits := by
  grind

theorem readInt?_eq_some_iff {n : Int} : readInt? cs = some n ↔ Denotes cs n := by
  constructor
  · intro hread
    rcases signed_cases cs with ⟨digits, rfl⟩ | ⟨digits, rfl⟩ | ⟨hminus, hplus⟩
    · rw [readInt?_minus] at hread
      obtain ⟨m, hm, rfl⟩ := Option.map_eq_some_iff.mp hread
      exact .minus (readNat?_eq_some_iff.mp hm)
    · rw [readInt?_plus] at hread
      obtain ⟨m, hm, rfl⟩ := Option.map_eq_some_iff.mp hread
      exact .plus (readNat?_eq_some_iff.mp hm)
    · rw [readInt?_unsigned hminus hplus] at hread
      obtain ⟨m, hm, rfl⟩ := Option.map_eq_some_iff.mp hread
      exact .unsigned (readNat?_eq_some_iff.mp hm)
  · intro hdenotes
    cases hdenotes with
    | minus hdigits => rw [readInt?_minus, hdigits.readNat?_eq, Option.map_some]
    | plus hdigits => rw [readInt?_plus, hdigits.readNat?_eq, Option.map_some]
    | unsigned hdigits =>
        rw [readInt?_unsigned, hdigits.readNat?_eq, Option.map_some]
        · rintro digits rfl
          cases hdigits.isDigit_of_mem (List.mem_cons_self ..)
        · rintro digits rfl
          cases hdigits.isDigit_of_mem (List.mem_cons_self ..)

theorem readInt64?_eq_some {n : Int} (hdenotes : Denotes s.toList n) (hlow : -2 ^ 63 ≤ n)
    (hhigh : n ≤ 2 ^ 63 - 1) : readInt64? s = some (Int64.ofInt n) := by
  rw [readInt64?, readInt?_eq_some_iff.mpr hdenotes, Option.bind_some, int64?, if_pos (by omega)]

theorem readInt64?_eq_none_of_denotes
    (hnone : ∀ n, Denotes s.toList n → ¬(-2 ^ 63 ≤ n ∧ n ≤ 2 ^ 63 - 1)) : readInt64? s = none := by
  rw [readInt64?]
  cases hread : readInt? s.toList with
  | none => rfl
  | some n =>
      have hrange := hnone n (readInt?_eq_some_iff.mp hread)
      rw [Option.bind_some, int64?, if_neg (by omega)]

theorem readInt64?_eq_none (hmem : c ∈ s.toList) (hc : c.isDigit = false) (hminus : c ≠ '-')
    (hplus : c ≠ '+') : readInt64? s = none := by
  apply readInt64?_eq_none_of_denotes
  intro n hdenotes
  rcases hdenotes.mem_cases hmem with hdigit | hsign | hsign
  · rw [hdigit] at hc
    cases hc
  · exact absurd hsign hminus
  · exact absurd hsign hplus

theorem readInt64?_numeral (w : Int64) : readInt64? (numeral w.toInt) = some w := by
  rw [readInt64?, numeral, String.toList_ofList, readInt?_decimal]
  exact int64?_toInt w

end Gamebook.Text
