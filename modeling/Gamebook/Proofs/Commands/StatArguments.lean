import Gamebook.Commands.StatArgument
import Gamebook.Proofs.Text.Numerals
import Gamebook.Proofs.Text.Trimming
import Mathlib.Data.List.TakeWhile

namespace Gamebook

open Text (trim_eq_iff_trimsTo)

/-- What an argument is read as: the name of a stat and its value, or why it is refused. The name
ends at the first equals sign, and is not empty; the value is digits after at most one sign, and
fits in 64 bits; and neither of them has the blanks that may stand around it. -/
inductive ReadsStat (raw : String) : Except String (String × Int64) → Prop
  | noEquals (hplain : '=' ∉ raw.toList) :
    ReadsStat raw (.error ("expected NAME=VALUE, got '" ++ raw ++ "'"))
  | noName {before after : List Char} (hraw : raw.toList = before ++ '=' :: after)
      (hbefore : '=' ∉ before) (hname : Text.TrimsTo before "") :
    ReadsStat raw (.error ("missing stat name in '" ++ raw ++ "'"))
  | noNumber {before after : List Char} {name value : String}
      (hraw : raw.toList = before ++ '=' :: after) (hbefore : '=' ∉ before)
      (hname : Text.TrimsTo before name) (hnamed : name ≠ "") (hvalue : Text.TrimsTo after value)
      (hnone : ∀ n, Text.Denotes value.toList n → ¬(-2 ^ 63 ≤ n ∧ n ≤ 2 ^ 63 - 1)) :
    ReadsStat raw (.error ("'" ++ value ++ "' is not a whole number"))
  | stat {before after : List Char} {name value : String} {n : Int}
      (hraw : raw.toList = before ++ '=' :: after) (hbefore : '=' ∉ before)
      (hname : Text.TrimsTo before name) (hnamed : name ≠ "") (hvalue : Text.TrimsTo after value)
      (hn : Text.Denotes value.toList n) (hlow : -2 ^ 63 ≤ n) (hhigh : n ≤ 2 ^ 63 - 1) :
    ReadsStat raw (.ok (name, Int64.ofInt n))

variable {raw name value : String} {before after : List Char}

theorem parseStat_of_not_mem (hplain : '=' ∉ raw.toList) :
    parseStat raw = .error (.noEquals raw) := by
  have hdrop : raw.toList.dropWhile (· ≠ '=') = [] :=
    List.dropWhile_eq_nil_iff.mpr fun c hc => decide_eq_true fun heq => hplain (heq ▸ hc)
  rw [parseStat, hdrop]

/-- An argument is read by what stands before and behind the first equals sign in it. -/
theorem parseStat_of_split (hraw : raw.toList = before ++ '=' :: after) (hbefore : '=' ∉ before) :
    parseStat raw =
      if Text.trim (String.ofList before) = "" then .error (.noName raw)
      else
        (Text.readInt64? (Text.trim (String.ofList after))).elim
          (.error (.noNumber (Text.trim (String.ofList after))))
          (fun n => .ok (Text.trim (String.ofList before), n)) := by
  have hplain : ∀ c ∈ before, decide (c ≠ '=') = true := by
    intro c hc
    exact decide_eq_true fun heq => hbefore (heq ▸ hc)
  have htake : raw.toList.takeWhile (· ≠ '=') = before := by
    rw [hraw, List.takeWhile_append_of_pos hplain]
    simp
  have hdrop : raw.toList.dropWhile (· ≠ '=') = '=' :: after := by
    rw [hraw, List.dropWhile_append_of_pos hplain]
    simp
  simp only [parseStat, htake, hdrop]
  cases Text.readInt64? (Text.trim (String.ofList after)) with
  | none => rfl
  | some n => rfl

theorem ReadsStat.parseStat_eq {answer : Except String (String × Int64)}
    (hreads : ReadsStat raw answer) : (parseStat raw).mapError StatFault.message = answer := by
  cases hreads with
  | noEquals hplain =>
      rw [parseStat_of_not_mem hplain]
      rfl
  | noName hraw hbefore hname =>
      rw [parseStat_of_split hraw hbefore, trim_eq_iff_trimsTo.mpr hname, if_pos rfl]
      rfl
  | noNumber hraw hbefore hname hnamed hvalue hnone =>
      rw [parseStat_of_split hraw hbefore, trim_eq_iff_trimsTo.mpr hname, if_neg hnamed,
        trim_eq_iff_trimsTo.mpr hvalue, Text.readInt64?_eq_none_of_denotes hnone]
      rfl
  | stat hraw hbefore hname hnamed hvalue hn hlow hhigh =>
      rw [parseStat_of_split hraw hbefore, trim_eq_iff_trimsTo.mpr hname, if_neg hnamed,
        trim_eq_iff_trimsTo.mpr hvalue, Text.readInt64?_eq_some hn hlow hhigh]
      rfl

theorem exists_readsStat (raw : String) : ∃ answer, ReadsStat raw answer := by
  by_cases hequals : '=' ∈ raw.toList
  · obtain ⟨before, after, hraw, hbefore⟩ := List.eq_append_cons_of_mem hequals
    have hname : Text.TrimsTo before (Text.trim (String.ofList before)) :=
      trim_eq_iff_trimsTo.mp rfl
    have hvalue : Text.TrimsTo after (Text.trim (String.ofList after)) :=
      trim_eq_iff_trimsTo.mp rfl
    by_cases hnamed : Text.trim (String.ofList before) = ""
    · rw [hnamed] at hname
      exact ⟨_, .noName hraw hbefore hname⟩
    · by_cases hnumber : ∃ n, Text.Denotes (Text.trim (String.ofList after)).toList n ∧
          (-2 ^ 63 ≤ n ∧ n ≤ 2 ^ 63 - 1)
      · obtain ⟨n, hn, hlow, hhigh⟩ := hnumber
        exact ⟨_, .stat hraw hbefore hname hnamed hvalue hn hlow hhigh⟩
      · exact ⟨_, .noNumber hraw hbefore hname hnamed hvalue fun n hn hrange =>
          hnumber ⟨n, hn, hrange⟩⟩
  · exact ⟨_, .noEquals hequals⟩

theorem parseStat_reads :
    (∀ raw answer, (parseStat raw).mapError StatFault.message = answer ↔ ReadsStat raw answer) ∧
    ∀ (name : String) (value : Int64) (front behind ahead rear : String),
      Text.IsTrim name → name ≠ "" → '=' ∉ name.toList →
      Text.isBlank front = true → Text.isBlank behind = true → Text.isBlank ahead = true →
      Text.isBlank rear = true →
        parseStat (front ++ name ++ behind ++ "=" ++ ahead ++ Text.numeral value.toInt ++ rear) =
          .ok (name, value) := by
  constructor
  · intro raw answer
    constructor
    · rintro rfl
      obtain ⟨answer, hreads⟩ := exists_readsStat raw
      rwa [hreads.parseStat_eq]
    · exact ReadsStat.parseStat_eq
  · intro name value front behind ahead rear htrim hnamed hplain hfront hbehind hahead hrear
    rw [Text.isBlank, List.all_eq_true] at hfront hbehind hahead hrear
    have hname : Text.TrimsTo (front.toList ++ name.toList ++ behind.toList) name :=
      ⟨_, _, rfl, hfront, hbehind, htrim⟩
    have hvalue : Text.TrimsTo (ahead.toList ++ (Text.numeral value.toInt).toList ++ rear.toList)
        (Text.numeral value.toInt) :=
      ⟨_, _, rfl, hahead, hrear, Text.trim_eq_iff.mp (Text.trim_numeral _)⟩
    have hblank : ∀ padding : String, (∀ c ∈ padding.toList, Text.isBlankChar c = true) →
        '=' ∉ padding.toList := fun padding hall hmem => absurd (hall _ hmem) (by decide)
    have hbefore : '=' ∉ front.toList ++ name.toList ++ behind.toList := by
      simp only [List.mem_append, not_or]
      exact ⟨⟨hblank front hfront, hplain⟩, hblank behind hbehind⟩
    have hraw : (front ++ name ++ behind ++ "=" ++ ahead ++ Text.numeral value.toInt ++
        rear).toList = front.toList ++ name.toList ++ behind.toList ++
          '=' :: (ahead.toList ++ (Text.numeral value.toInt).toList ++ rear.toList) := by
      simp
    rw [parseStat_of_split hraw hbefore, trim_eq_iff_trimsTo.mpr hname, if_neg hnamed,
      trim_eq_iff_trimsTo.mpr hvalue, Text.readInt64?_numeral, Option.elim_some]

theorem parseStat_luck :
    parseStat "\u2003luck\t=\n-9223372036854775808 " = .ok ("luck", Int64.minValue) := by
  have hluck : Text.IsTrim "luck" := Text.trim_eq_iff.mp (by decide)
  exact parseStat_reads.2 "luck" Int64.minValue "\u2003" "\t" "\n" " " hluck (by decide)
    (by decide) (by decide) (by decide) (by decide) (by decide)

end Gamebook
