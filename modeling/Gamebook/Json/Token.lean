import Gamebook.Json.Numeral

namespace Gamebook.Json

/-- The text of a string, or what is wrong with it as text. -/
abbrev Name := Except Flaw String

/-- A token of JSON text. -/
inductive Token where
  | openArray
  | closeArray
  | openObject
  | closeObject
  | comma
  | colon
  | null
  | bool (b : Bool)
  | number (n : Except Flaw Number)
  | text (s : Name)
  /-- A string that cannot be read past: what is wrong when it is read, and when it is skipped. -/
  | brokenText (read skip : Flaw)
  /-- Anything else that cannot be read past. -/
  | broken (read skip : Flaw)

/-- The pieces of a string: characters, and 16-bit units that are written by their number. -/
inductive Unit16 where
  | char (c : Char)
  | code (n : Nat)
  deriving DecidableEq, Repr

/-- Whether a unit is the first half of a surrogate pair. -/
def isHigh (n : Nat) : Bool := 0xD800 ≤ n && n ≤ 0xDBFF

/-- Whether a unit is the second half of a surrogate pair. -/
def isLow (n : Nat) : Bool := 0xDC00 ≤ n && n ≤ 0xDFFF

/-- The character of a surrogate pair. -/
def pairChar (high low : Nat) : Char :=
  Char.ofNat (0x10000 + (high - 0xD800) * 0x400 + (low - 0xDC00))

/-- The text of a string by its pieces, after the text that is already read, last character first.
Each half of a surrogate pair must have its other half. -/
def decodeUnits (done : List Char) : List Unit16 → Option (List Char)
  | [] => some done.reverse
  | .char c :: rest => decodeUnits (c :: done) rest
  | .code n :: rest =>
    if isLow n then none
    else if isHigh n then
      match rest with
      | .code m :: rest => if isLow m then decodeUnits (pairChar n m :: done) rest else none
      | _ => none
    else decodeUnits (Char.ofNat n :: done) rest

/-- The value of a hexadecimal digit. -/
def hexValue? (c : Char) : Option Nat :=
  if '0' ≤ c ∧ c ≤ '9' then some (c.toNat - '0'.toNat)
  else if 'a' ≤ c ∧ c ≤ 'f' then some (c.toNat - 'a'.toNat + 10)
  else if 'A' ≤ c ∧ c ≤ 'F' then some (c.toNat - 'A'.toNat + 10)
  else none

/-- The unit that four hexadecimal digits name. -/
def hexUnit? (a b c d : Char) : Option Nat := do
  return (← hexValue? a) * 4096 + (← hexValue? b) * 256 + (← hexValue? c) * 16 + (← hexValue? d)

/-- The character that a letter after a backslash stands for. -/
def unescape? : Char → Option Char
  | '"' => some '"'
  | '\\' => some '\\'
  | '/' => some '/'
  | 'b' => some '\x08'
  | 'f' => some '\x0c'
  | 'n' => some '\n'
  | 'r' => some '\r'
  | 't' => some '\t'
  | _ => none

/-- A string as far as it could be scanned: to its closing quote, with the characters after it, or
to a place that cannot be passed. -/
inductive StringScan where
  | closed (units : List Unit16) (rest : List Char)
  | broken (units : List Unit16) (f : Flaw)

/-- Scans a string from behind its opening quote, after the pieces already scanned, last piece
first. A unit takes four bytes of text: where fewer are left, the text has ended. -/
def scanString (done : List Unit16) : List Char → StringScan
  | [] => .broken done.reverse .ended
  | '"' :: rest => .closed done.reverse rest
  | '\\' :: 'u' :: a :: b :: c :: d :: rest =>
    match hexUnit? a b c d with
    | some n => scanString (.code n :: done) rest
    | none => .broken done.reverse .malformed
  | '\\' :: 'u' :: rest =>
    .broken done.reverse (if (String.ofList rest).utf8ByteSize < 4 then .ended else .malformed)
  | '\\' :: c :: rest =>
    match unescape? c with
    | some c => scanString (.char c :: done) rest
    | none => .broken done.reverse .malformed
  | ['\\'] => .broken done.reverse .ended
  | c :: rest =>
    if c.toNat < 0x20 then .broken done.reverse .malformed
    else scanString (.char c :: done) rest

/-- Pieces without a first half of a pair at their end, which could still have found its other
half. -/
def withoutOpenPair (units : List Unit16) : List Unit16 :=
  match units.getLast? with
  | some (.code n) => if isHigh n then units.dropLast else units
  | _ => units

/-- The token of a string, and the characters after it. -/
def stringToken (cs : List Char) : Token × List Char :=
  match scanString [] cs with
  | .closed units rest =>
    match decodeUnits [] units with
    | some text => (.text (.ok (String.ofList text)), rest)
    | none => (.text (.error .malformed), rest)
  | .broken units f =>
    let read := if (decodeUnits [] (withoutOpenPair units)).isSome then f else .malformed
    (.brokenText read f, [])

/-- The characters after a word that the text must go on with. -/
def expectWord : List Char → List Char → Except Flaw (List Char)
  | [], cs => .ok cs
  | _ :: _, [] => .error .ended
  | w :: word, c :: cs => if c = w then expectWord word cs else .error .malformed

/-- The token of a word such as `true`, and the characters after it. -/
def wordToken (word : List Char) (token : Token) (cs : List Char) : Token × List Char :=
  match expectWord word cs with
  | .ok rest => (token, rest)
  | .error f => (.broken f f, [])

/-- The token of a numeral, and the characters after it. A reader who skips a numeral calls it
malformed also where the text ends within it. -/
def numberToken (cs : List Char) : Token × List Char :=
  match Numeral.scan cs with
  | .ok (numeral, rest) =>
    match numeral.number? with
    | some n => (.number (.ok n), rest)
    | none => (.number (.error .malformed), rest)
  | .error f => (.broken f .malformed, [])

/-- The blanks that may stand between tokens. -/
def isSpace (c : Char) : Bool :=
  c = ' ' || c = '\n' || c = '\t' || c = '\r'

/-- The first token of characters that begin with no blank, and the characters after it. -/
def tokenAt (c : Char) (rest : List Char) : Token × List Char :=
  match c with
  | '{' => (.openObject, rest)
  | '}' => (.closeObject, rest)
  | '[' => (.openArray, rest)
  | ']' => (.closeArray, rest)
  | ',' => (.comma, rest)
  | ':' => (.colon, rest)
  | '"' => stringToken rest
  | 'n' => wordToken ['u', 'l', 'l'] .null rest
  | 't' => wordToken ['r', 'u', 'e'] (.bool true) rest
  | 'f' => wordToken ['a', 'l', 's', 'e'] (.bool false) rest
  | '-' => numberToken ('-' :: rest)
  | c => if c.isDigit then numberToken (c :: rest) else (.broken .malformed .malformed, [])

/-- The next token and the characters after it, unless only blanks are left. -/
def nextToken (cs : List Char) : Option (Token × List Char) :=
  match cs.dropWhile isSpace with
  | [] => none
  | c :: rest => some (tokenAt c rest)

theorem length_expectWord {word cs rest : List Char} (h : expectWord word cs = .ok rest) :
    rest.length ≤ cs.length := by
  induction word generalizing cs with
  | nil =>
    cases h
    exact Nat.le_refl _
  | cons w word ih =>
    cases cs with
    | nil => cases h
    | cons c cs =>
      rw [expectWord] at h
      split at h
      · exact Nat.le_succ_of_le (ih h)
      · cases h

theorem length_scanString {done units : List Unit16} {cs rest : List Char}
    (h : scanString done cs = .closed units rest) : rest.length ≤ cs.length := by
  fun_induction scanString done cs <;> simp_all <;> omega

theorem length_wordToken (word : List Char) (token : Token) (cs : List Char) :
    (wordToken word token cs).2.length ≤ cs.length := by
  rw [wordToken]
  split
  · exact length_expectWord ‹_›
  · exact Nat.zero_le _

theorem length_stringToken (cs : List Char) : (stringToken cs).2.length ≤ cs.length := by
  rw [stringToken]
  split
  · split <;> exact length_scanString ‹_›
  · exact Nat.zero_le _

theorem length_numberToken {cs : List Char} (h : cs ≠ []) :
    (numberToken cs).2.length < cs.length := by
  have hpos := List.length_pos_iff.mpr h
  rw [numberToken]
  split
  · split <;> exact Numeral.length_scan ‹_›
  · exact hpos

theorem length_tokenAt (c : Char) (rest : List Char) :
    (tokenAt c rest).2.length ≤ rest.length := by
  have hnumber (c : Char) : (numberToken (c :: rest)).2.length ≤ rest.length :=
    Nat.le_of_lt_succ (length_numberToken (List.cons_ne_nil c rest))
  rw [tokenAt.eq_def]
  split <;> grind [length_stringToken, length_wordToken]

theorem length_dropWhile_le {α : Type} (p : α → Bool) (l : List α) :
    (l.dropWhile p).length ≤ l.length :=
  (List.dropWhile_suffix p).length_le

theorem length_nextToken {cs rest : List Char} {token : Token}
    (h : nextToken cs = some (token, rest)) : rest.length < cs.length := by
  have hdrop := length_dropWhile_le isSpace cs
  rw [nextToken] at h
  split at h
  · cases h
  · rename_i c tail htail
    have hlen := length_tokenAt c tail
    rw [Option.some.inj h] at hlen
    rw [htail, List.length_cons] at hdrop
    exact Nat.lt_of_le_of_lt hlen hdrop

end Gamebook.Json
