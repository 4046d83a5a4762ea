namespace Gamebook.Text

/-- The white space of Unicode: blanks, line ends, tabs and the spaces of fixed width. -/
def isBlankChar (c : Char) : Bool :=
  let n := c.toNat
  (0x9 ≤ n && n ≤ 0xD) || n = 0x20 || n = 0x85 || n = 0xA0 || n = 0x1680 ||
    (0x2000 ≤ n && n ≤ 0x200A) || n = 0x2028 || n = 0x2029 || n = 0x202F || n = 0x205F ||
    n = 0x3000

/-- Whether text has nothing but blanks in it. -/
def isBlank (s : String) : Bool :=
  s.toList.all isBlankChar

/-- Characters without the blanks they begin with. -/
def trimLeft (cs : List Char) : List Char :=
  cs.dropWhile isBlankChar

/-- Characters without the blanks they end with. -/
def trimRight (cs : List Char) : List Char :=
  (cs.reverse.dropWhile isBlankChar).reverse

/-- Text without the blanks at its two ends. -/
def trim (s : String) : String :=
  String.ofList (trimRight (trimLeft s.toList))

/-- Text without the blanks at its end. -/
def trimEnd (s : String) : String :=
  String.ofList (trimRight s.toList)

theorem trimLeft_eq_nil_iff {cs : List Char} : trimLeft cs = [] ↔ cs.all isBlankChar = true := by
  induction cs with
  | nil => simp [trimLeft]
  | cons c rest ih =>
    rw [trimLeft] at ih ⊢
    cases hc : isBlankChar c <;> simp [hc, ih]

theorem trimRight_eq_nil_iff {cs : List Char} : trimRight cs = [] ↔ cs.all isBlankChar = true := by
  rw [trimRight, List.reverse_eq_nil_iff, ← List.all_reverse]
  exact trimLeft_eq_nil_iff

theorem head_trimLeft {c : Char} {cs rest : List Char} (h : trimLeft cs = c :: rest) :
    isBlankChar c = false := by
  induction cs with
  | nil => simp [trimLeft] at h
  | cons head tail ih =>
    rw [trimLeft, List.dropWhile_cons] at h
    split at h
    · exact ih h
    · grind

theorem trimLeft_trimLeft (cs : List Char) : trimLeft (trimLeft cs) = trimLeft cs := by
  cases h : trimLeft cs with
  | nil => rfl
  | cons c rest => simp [trimLeft, head_trimLeft h]

theorem trimRight_trimRight (cs : List Char) : trimRight (trimRight cs) = trimRight cs := by
  have h := trimLeft_trimLeft cs.reverse
  simp only [trimLeft] at h
  simp [trimRight, h]

theorem trim_eq_empty_iff {s : String} : trim s = "" ↔ isBlank s = true := by
  have hempty : trim s = "" ↔ trimRight (trimLeft s.toList) = [] := by
    rw [trim, ← String.toList_inj, String.toList_ofList]
    rfl
  rw [hempty, trimRight_eq_nil_iff, isBlank]
  constructor
  · intro h
    rw [← trimLeft_eq_nil_iff]
    cases hl : trimLeft s.toList with
    | nil => rfl
    | cons c rest =>
      rw [hl] at h
      have hc : isBlankChar c = true := by simp_all
      simp [head_trimLeft hl] at hc
  · intro h
    simp [trimLeft_eq_nil_iff.mpr h]

end Gamebook.Text
