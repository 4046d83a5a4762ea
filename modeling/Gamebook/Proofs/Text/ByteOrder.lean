namespace Gamebook.Text

/-- The bytes by which a string is encoded. -/
def bytes (s : String) : List UInt8 :=
  s.toUTF8.data.toList

/-- Whether two lists of bytes part, the first one with a smaller byte. -/
def Precedes : List UInt8 → List UInt8 → Prop
  | a :: as, b :: bs => a < b ∨ a = b ∧ Precedes as bs
  | _, _ => False

theorem Precedes.append_lt {left right : List UInt8} (hprecedes : Precedes left right)
    (rest others : List UInt8) : left ++ rest < right ++ others := by
  induction left generalizing right with
  | nil => cases right <;> exact hprecedes.elim
  | cons a left ih =>
      cases right with
      | nil => exact hprecedes.elim
      | cons b right =>
          rw [List.cons_append, List.cons_append, List.cons_lt_cons_iff]
          rcases hprecedes with hless | ⟨hsame, hrest⟩
          · exact Or.inl hless
          · exact Or.inr ⟨hsame, ih hrest⟩

theorem toNat_le (c : Char) : c.val.toNat ≤ 1114111 := by
  have hvalid := c.valid
  rw [UInt32.isValidChar, Nat.isValidChar] at hvalid
  omega

theorem precedes_utf8EncodeChar {c d : Char} (hless : c < d) :
    Precedes (String.utf8EncodeChar c) (String.utf8EncodeChar d) := by
  have hnumber : c.val.toNat < d.val.toNat := hless
  have hlast := toNat_le d
  rw [String.utf8EncodeChar, String.utf8EncodeChar]
  generalize c.val.toNat = m at *
  generalize d.val.toNat = n at *
  -- one case for each pair of lengths, where the first bytes that differ are compared as numbers
  repeat' split
  all_goals
    simp (disch := omega) only [Precedes, UInt8.lt_iff_toNat_lt, ← UInt8.toNat_inj,
      UInt8.toNat_ofNat', Nat.mod_eq_of_lt]
    omega

theorem flatMap_utf8EncodeChar_lt {cs ds : List Char} (hless : cs < ds) :
    cs.flatMap String.utf8EncodeChar < ds.flatMap String.utf8EncodeChar := by
  induction cs generalizing ds with
  | nil =>
      cases ds with
      | nil => cases hless
      | cons d ds =>
          rw [List.flatMap_nil, List.flatMap_cons]
          obtain ⟨b, rest, hsome⟩ :=
            List.exists_cons_of_ne_nil (String.utf8EncodeChar_ne_nil : String.utf8EncodeChar d ≠ [])
          rw [hsome, List.cons_append]
          exact List.nil_lt_cons b _
  | cons c cs ih =>
      cases ds with
      | nil => cases hless
      | cons d ds =>
          rw [List.flatMap_cons, List.flatMap_cons]
          rcases List.cons_lt_cons_iff.mp hless with hfirst | ⟨rfl, hrest⟩
          · exact (precedes_utf8EncodeChar hfirst).append_lt _ _
          · exact List.append_left_lt (ih hrest)

theorem bytes_lt {s t : String} (hless : s < t) : bytes s < bytes t := by
  have hbytes : ∀ text : String, bytes text = text.toList.flatMap String.utf8EncodeChar := by
    intro text
    rw [bytes, String.toUTF8, ← String.utf8Encode_toList, List.utf8Encode,
      List.toList_data_toByteArray]
  rw [hbytes, hbytes]
  exact flatMap_utf8EncodeChar_lt (String.lt_iff.mp hless)

end Gamebook.Text
