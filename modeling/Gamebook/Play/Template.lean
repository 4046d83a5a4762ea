import Gamebook.Play.State
import Gamebook.Text.Integer

/-!
Scene text with directives between braces. A directive is an opening brace, text without braces,
and a closing brace, where the text in between is one of the three forms below; everything else
stands for itself, unmatched braces included.
-/

namespace Gamebook

/-- A directive in the text of a scene. -/
inductive Directive where
  /-- Shows a stat, or the given digits if it is not set. -/
  | stat (name : String) (default : Option String)
  /-- Gives the player an item. -/
  | addItem (item : String)
  /-- Ends the story in some way. -/
  | ending (kind : String)
  deriving DecidableEq, Repr

/-- A part of a template. -/
inductive Segment where
  | text (s : String)
  | directive (d : Directive)
  deriving DecidableEq, Repr

/-- The characters after some first characters, if those are as given. -/
def afterStart : List Char → List Char → Option (List Char)
  | [], cs => some cs
  | _ :: _, [] => none
  | w :: word, c :: cs => if c = w then afterStart word cs else none

theorem afterStart_eq_some_iff {word cs rest : List Char} :
    afterStart word cs = some rest ↔ cs = word ++ rest := by
  induction word generalizing cs with
  | nil => simp [afterStart]
  | cons w word ih =>
    cases cs with
    | nil => simp [afterStart]
    | cons c cs =>
      rw [afterStart]
      split <;> simp_all

namespace Directive

/-- The characters that names of stats in directives consist of. -/
def isNameChar (c : Char) : Bool :=
  c.isAlphanum || c = '_'

/-- The characters before the first vertical bar, and those after it, if there is one. -/
def splitBar (cs : List Char) : List Char × Option (List Char) :=
  match cs.dropWhile (· ≠ '|') with
  | [] => (cs, none)
  | _ :: rest => (cs.takeWhile (· ≠ '|'), some rest)

/-- The directive to show a stat, by what stands behind its keyword. -/
def ofStat? (cs : List Char) : Option Directive :=
  let (name, default) := splitBar cs
  if name ≠ [] ∧ name.all isNameChar ∧ (default.getD []).all Char.isDigit then
    some (.stat (String.ofList name) (default.map String.ofList))
  else none

/-- The directive that stands between braces. What begins as one form is never another one. -/
def ofBody? (body : List Char) : Option Directive :=
  match afterStart ['S', 'T', 'A', 'T', ':'] body with
  | some rest => ofStat? rest
  | none =>
    match afterStart ['I', 'T', 'E', 'M', ':', 'a', 'd', 'd', ':'] body with
    | some [] => none
    | some item => some (.addItem (String.ofList item))
    | none =>
      match afterStart ['E', 'N', 'D', ':'] body with
      | some [] => none
      | some kind => some (.ending (String.ofList kind))
      | none => none

/-- The text of a directive between its braces. -/
def body : Directive → List Char
  | .stat name none => ['S', 'T', 'A', 'T', ':'] ++ name.toList
  | .stat name (some digits) => ['S', 'T', 'A', 'T', ':'] ++ name.toList ++ '|' :: digits.toList
  | .addItem item => ['I', 'T', 'E', 'M', ':', 'a', 'd', 'd', ':'] ++ item.toList
  | .ending kind => ['E', 'N', 'D', ':'] ++ kind.toList

/-- What a directive shows: the stat in decimal, or the digits for the case that it is not set, or
zero if there are none; the other directives show nothing. -/
def expansion (state : PlayerState) : Directive → String
  | .stat name default =>
    match state.stat? name with
    | some value => Text.numeral value.toInt
    | none =>
      match default with
      | none | some "" => "0"
      | some digits => digits
  | .addItem _ | .ending _ => ""

/-- What a directive does to the player. -/
def effect (state : PlayerState) : Directive → PlayerState
  | .stat _ _ => state
  | .addItem item => state.addItem item
  | .ending kind => state.withEnding kind

end Directive

namespace Segment

/-- The template text of a segment. -/
def source : Segment → List Char
  | .text s => s.toList
  | .directive d => '{' :: d.body ++ ['}']

end Segment

namespace Template

/-- Whether a character is a brace. -/
def isBrace (c : Char) : Bool :=
  c = '{' || c = '}'

/-- The characters before the first brace. -/
def run (cs : List Char) : List Char :=
  cs.takeWhile fun c => !isBrace c

/-- The characters from the first brace on. -/
def afterRun (cs : List Char) : List Char :=
  cs.dropWhile fun c => !isBrace c

theorem length_afterRun_le (cs : List Char) : (afterRun cs).length ≤ cs.length :=
  (List.dropWhile_suffix _).length_le

/-- The directive that characters begin with behind an opening brace, and what follows it. -/
def directive? (cs : List Char) : Option (Directive × List Char) :=
  match afterRun cs with
  | '}' :: rest => (Directive.ofBody? (run cs)).map fun d => (d, rest)
  | _ => none

theorem length_directive? {cs rest : List Char} {d : Directive}
    (h : directive? cs = some (d, rest)) : rest.length < cs.length := by
  have hlen := length_afterRun_le cs
  rw [directive?] at h
  split at h
  · rename_i tail htail
    cases hbody : Directive.ofBody? (run cs) with
    | none => simp [hbody] at h
    | some found =>
      simp only [hbody, Option.map_some, Option.some.injEq, Prod.mk.injEq] at h
      rw [htail, List.length_cons, h.2] at hlen
      exact hlen
  · cases h

/-- Cuts a template into segments, from left to right: directives, braces that belong to none, one
at a time, and the runs of text between braces. -/
def segmentsOf : List Char → List Segment
  | [] => []
  | '{' :: cs =>
    match _h : directive? cs with
    | some (d, rest) => .directive d :: segmentsOf rest
    | none => .text "\x7b" :: segmentsOf cs
  | '}' :: cs => .text "\x7d" :: segmentsOf cs
  | c :: cs => .text (String.ofList (c :: run cs)) :: segmentsOf (afterRun cs)
termination_by cs => cs.length
decreasing_by
  · exact Nat.lt_succ_of_lt (length_directive? _h)
  · exact Nat.lt_succ_self _
  · exact Nat.lt_succ_self _
  · exact Nat.lt_succ_of_le (length_afterRun_le cs)

/-- The segments of a template. -/
def segments (template : String) : List Segment :=
  segmentsOf template.toList

/-- Renders segments from left to right, with the text before them and the player they meet. -/
def renderFrom (text : String) (state : PlayerState) : List Segment → String × PlayerState
  | [] => (text, state)
  | .text s :: rest => renderFrom (text ++ s) state rest
  | .directive d :: rest => renderFrom (text ++ d.expansion state) (d.effect state) rest

/-- The text that a template shows to a player, and the player after its directives. -/
def render (template : String) (state : PlayerState) : String × PlayerState :=
  renderFrom "" state (segments template)

end Template

end Gamebook
