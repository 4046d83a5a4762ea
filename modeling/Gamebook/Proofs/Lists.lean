import Mathlib.Data.List.Induction
import Mathlib.Data.List.Nodup

namespace Gamebook

theorem filterMap_concat_none {α β : Type} {f : α → Option β} {values : List α} {value : α}
    (hnone : f value = none) : (values ++ [value]).filterMap f = values.filterMap f := by
  rw [List.filterMap_append, List.filterMap_cons_none hnone, List.filterMap_nil, List.append_nil]

theorem eraseDups_concat (items : List String) (item : String) :
    (items ++ [item]).eraseDups =
      if item ∈ items then items.eraseDups else items.eraseDups ++ [item] := by
  rw [List.eraseDups_append]
  split
  · rename_i hheld
    have hnone : [item].removeAll items = [] := by simp [List.removeAll, hheld]
    rw [hnone, List.eraseDups_nil, List.append_nil]
  · rename_i hnew
    have hsame : [item].removeAll items = [item] := by simp [List.removeAll, hnew]
    have hsingle : [item].eraseDups = [item] := by simp [List.eraseDups_cons]
    rw [hsame, hsingle]

theorem nodup_eraseDups (items : List String) : items.eraseDups.Nodup := by
  induction items using List.reverseRecOn with
  | nil => exact List.nodup_nil
  | append_singleton items item ih =>
      rw [eraseDups_concat]
      split
      · exact ih
      · rename_i hnew
        rw [← List.concat_eq_append]
        exact List.Nodup.concat (fun hmem => hnew (List.mem_eraseDups.mp hmem)) ih

theorem eraseDups_prefix_append (items more : List String) :
    items.eraseDups <+: (items ++ more).eraseDups := by
  rw [List.eraseDups_append]
  exact List.prefix_append _ _

section Sorting

variable {α : Type} {items : List α}

/-- A stable sort does not change the order of items that may stand in any order. -/
theorem filter_mergeSort {le : α → α → Bool} {q : α → Bool}
    (htrans : ∀ a b c, le a b = true → le b c = true → le a c = true)
    (htotal : ∀ a b, (le a b || le b a) = true)
    (halike : ∀ a b, q a = true → q b = true → le a b = true) :
    (items.mergeSort le).filter q = items.filter q := by
  have hsorted : (items.filter q).Pairwise fun a b => le a b = true :=
    List.pairwise_filter.mpr (List.pairwise_of_forall fun a b => halike a b)
  have hkept : (items.filter q).Sublist (items.mergeSort le) :=
    List.sublist_mergeSort htrans htotal hsorted List.filter_sublist
  have hwithin : (items.filter q).Sublist ((items.mergeSort le).filter q) := by
    have hfiltered := hkept.filter q
    rwa [List.filter_filter, funext fun item => Bool.and_self (q item)] at hfiltered
  exact (hwithin.eq_of_length ((List.mergeSort_perm items le).filter q).length_eq.symm).symm

theorem filter_append_filter_not {p : α → Bool}
    (hsorted : items.Pairwise fun a b => (p a || !p b) = true) :
    items.filter p ++ items.filter (fun item => !p item) = items := by
  induction items with
  | nil => rfl
  | cons first rest ih =>
      obtain ⟨hfirst, hrest⟩ := List.pairwise_cons.mp hsorted
      cases hp : p first with
      | true =>
          rw [List.filter_cons_of_pos hp, List.filter_cons_of_neg (by simp [hp]), List.cons_append,
            ih hrest]
      | false =>
          have hnone : ∀ item ∈ first :: rest, p item = false := by
            intro item hitem
            rcases List.mem_cons.mp hitem with rfl | hitem
            · exact hp
            · simpa [hp] using hfirst item hitem
          rw [List.filter_eq_nil_iff.mpr (by simpa using hnone),
            List.filter_eq_self.mpr (by simpa using hnone), List.nil_append]

theorem pairwise_mergeSort_le (names : List String) :
    (names.mergeSort fun a b => decide (a ≤ b)).Pairwise (· ≤ ·) := by
  have htrans : ∀ a b c : String, decide (a ≤ b) = true → decide (b ≤ c) = true →
      decide (a ≤ c) = true := by
    intro a b c hab hbc
    exact decide_eq_true (String.le_trans (of_decide_eq_true hab) (of_decide_eq_true hbc))
  have htotal : ∀ a b : String, (decide (a ≤ b) || decide (b ≤ a)) = true := by
    intro a b
    rw [Bool.or_eq_true, decide_eq_true_eq, decide_eq_true_eq]
    exact String.le_total a b
  exact (List.pairwise_mergeSort htrans htotal names).imp fun hless => of_decide_eq_true hless

theorem pairwise_mergeSort_lt {names : List String} (hnodup : names.Nodup) :
    (names.mergeSort fun a b => decide (a ≤ b)).Pairwise (· < ·) := by
  have hne := (List.mergeSort_perm names fun a b => decide (a ≤ b)).nodup_iff.mpr hnodup
  refine (pairwise_mergeSort_le names).imp₂ (fun a b hle hne => ?_) hne
  exact String.not_le.mp fun hge => hne (String.le_antisymm hle hge)

theorem mergeSort_eq_of_perm {names others : List String} (hperm : names.Perm others) :
    (names.mergeSort fun a b => decide (a ≤ b)) = others.mergeSort fun a b => decide (a ≤ b) := by
  have hsorted : ((names.mergeSort fun a b => decide (a ≤ b)).Perm
      (others.mergeSort fun a b => decide (a ≤ b))) :=
    ((List.mergeSort_perm names _).trans hperm).trans (List.mergeSort_perm others _).symm
  exact hsorted.eq_of_pairwise (fun _ _ _ _ => String.le_antisymm)
    (pairwise_mergeSort_le names) (pairwise_mergeSort_le others)

end Sorting

end Gamebook
