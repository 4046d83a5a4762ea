import Gamebook.Json.Document
import Gamebook.Proofs.Json.Token
import Mathlib.Data.List.Chain

namespace Gamebook.Json

variable {cs rest : List Char}

theorem scanString_escape {letter c : Char} (hletter : unescape? letter = some c)
    (done : List Unit16) (rest : List Char) :
    scanString done ('\\' :: letter :: rest) = scanString (.char c :: done) rest := by
  rw [unescape?.eq_def] at hletter
  split at hletter <;> cases hletter <;> rfl

theorem scanString_append {done units : List Unit16}
    (hscan : scanString done cs = .closed units rest) :
    ∃ taken, cs = taken ++ rest ∧
      ∀ other, scanString done (taken ++ other) = .closed units other := by
  fun_induction scanString done cs with
  | case1 => cases hscan
  | case2 done tail =>
      cases hscan
      exact ⟨['"'], rfl, fun other => rfl⟩
  | case3 done a b c d tail n hunit ih =>
      obtain ⟨taken, rfl, htaken⟩ := ih hscan
      refine ⟨'\\' :: 'u' :: a :: b :: c :: d :: taken, rfl, fun other => ?_⟩
      simp only [List.cons_append]
      rw [scanString, hunit]
      exact htaken other
  | case4 => cases hscan
  | case5 => cases hscan
  | case6 done letter tail _ _ c hletter ih =>
      obtain ⟨taken, rfl, htaken⟩ := ih hscan
      refine ⟨'\\' :: letter :: taken, rfl, fun other => ?_⟩
      simp only [List.cons_append]
      rw [scanString_escape hletter]
      exact htaken other
  | case7 => cases hscan
  | case8 => cases hscan
  | case9 => cases hscan
  | case10 done c tail hquote _ _ hescape hlast hgreat ih =>
      have hslash : c ≠ '\\' := by
        intro heq
        cases tail with
        | nil => exact hlast heq rfl
        | cons d tail => exact hescape d tail heq rfl
      obtain ⟨taken, rfl, htaken⟩ := ih hscan
      refine ⟨c :: taken, rfl, fun other => ?_⟩
      rw [List.cons_append, scanString_plain hquote hslash hgreat]
      exact htaken other

theorem expectWord_eq_ok_iff {word : List Char} :
    expectWord word cs = .ok rest ↔ cs = word ++ rest := by
  induction word generalizing cs with
  | nil => simp [expectWord]
  | cons w word ih =>
      cases cs with
      | nil => simp [expectWord]
      | cons c cs =>
          rw [expectWord]
          split
          · rename_i heq
            simp [ih, heq]
          · rename_i hne
            simp [hne]

theorem bind_eq_ok {ε α β : Type} {x : Except ε α} {f : α → Except ε β} {b : β} :
    x.bind f = .ok b ↔ ∃ a, x = .ok a ∧ f a = .ok b := by
  cases x with
  | error e => simp [Except.bind]
  | ok a => simp [Except.bind]

theorem forall_head_append {P : Char → Prop} {front back : List Char}
    (hfront : ∀ c ∈ front.head?, P c) (hback : front = [] → ∀ c ∈ back.head?, P c) :
    ∀ c ∈ (front ++ back).head?, P c := by
  cases front with
  | nil => exact hback rfl
  | cons d front => exact hfront

namespace Numeral

theorem scanDigits_append {digits : List Char} (hscan : scanDigits cs = .ok (digits, rest)) :
    cs = digits ++ rest ∧ (∀ c ∈ digits.head?, c.isDigit = true) ∧ digits ≠ [] ∧
      ∀ other, (∀ c ∈ other.head?, c.isDigit = false) →
        scanDigits (digits ++ other) = .ok (digits, other) := by
  rw [scanDigits] at hscan
  split at hscan
  · cases hscan
  · rename_i hsome
    cases hscan
    have hdigits : ∀ c ∈ cs.takeWhile Char.isDigit, c.isDigit = true :=
      List.all_eq_true.mp List.all_takeWhile
    exact ⟨List.takeWhile_append_dropWhile.symm, fun c hc => hdigits c (List.mem_of_head? hc),
      hsome, fun other hother => scanDigits_digits hdigits hsome hother⟩

theorem scanFraction_append {fraction : Option (List Char)}
    (hscan : scanFraction cs = .ok (fraction, rest)) :
    ∃ taken, cs = taken ++ rest ∧ (∀ c ∈ taken.head?, c = '.') ∧
      ∀ other, (∀ c ∈ other.head?, c.isDigit = false ∧ c ≠ '.') →
        scanFraction (taken ++ other) = .ok (fraction, other) := by
  rw [scanFraction.eq_def] at hscan
  split at hscan
  · rename_i tail
    cases hdigits : scanDigits tail with
    | error f => rw [hdigits] at hscan; cases hscan
    | ok found =>
        obtain ⟨digits, left⟩ := found
        rw [hdigits] at hscan
        cases hscan
        obtain ⟨rfl, -, -, happend⟩ := scanDigits_append hdigits
        refine ⟨'.' :: digits, rfl, by simp, fun other hother => ?_⟩
        rw [List.cons_append, scanFraction, happend other fun c hc => (hother c hc).1]
        rfl
  · cases hscan
    refine ⟨[], rfl, by simp, fun other hother => ?_⟩
    rw [List.nil_append, scanFraction.eq_def]
    split
    · exact absurd rfl (hother '.' rfl).2
    · rfl

theorem scanMinus_append (cs : List Char) :
    ∃ taken, cs = taken ++ (scanMinus cs).2 ∧
      ∀ other, (∀ c ∈ other.head?, c.isDigit = true) →
        scanMinus (taken ++ other) = ((scanMinus cs).1, other) := by
  rw [scanMinus.eq_def]
  split
  · exact ⟨['-'], rfl, fun other _ => rfl⟩
  · exact ⟨[], rfl, fun other hother => scanMinus_of_digit hother⟩

theorem scanSign_append (cs : List Char) :
    ∃ taken, cs = taken ++ (scanSign cs).2 ∧
      ∀ other, (∀ c ∈ other.head?, c.isDigit = true) →
        scanSign (taken ++ other) = ((scanSign cs).1, other) := by
  rw [scanSign.eq_def]
  split
  · exact ⟨['+'], rfl, fun other _ => rfl⟩
  · rename_i hplus
    obtain ⟨taken, htaken, happend⟩ := scanMinus_append cs
    refine ⟨taken, htaken, fun other hother => ?_⟩
    rw [scanSign.eq_def]
    split
    · rename_i tail heq
      cases taken with
      | nil => exact absurd (hother '+' (by rw [← List.nil_append other, heq]; rfl)) (by decide)
      | cons c taken =>
          obtain ⟨rfl, -⟩ := List.cons.inj heq
          exact absurd htaken (hplus _)
    · exact happend other hother

theorem scanExponent_append {exponent : Option (Bool × List Char)}
    (hscan : scanExponent cs = .ok (exponent, rest)) :
    ∃ taken, cs = taken ++ rest ∧ (∀ c ∈ taken.head?, c = 'e' ∨ c = 'E') ∧
      ∀ other, EndsNumeral other → scanExponent (taken ++ other) = .ok (exponent, other) := by
  cases cs with
  | nil =>
      cases hscan
      exact ⟨[], rfl, by simp, fun other hother => scanExponent_of_ends hother⟩
  | cons c tail =>
      rw [scanExponent] at hscan
      split at hscan
      · rename_i hletter
        obtain ⟨sign, hsign, hsigned⟩ := scanSign_append tail
        cases hdigits : scanDigits (scanSign tail).2 with
        | error f => simp [hdigits, Except.map] at hscan
        | ok found =>
            obtain ⟨digits, left⟩ := found
            simp only [hdigits, Except.map, Except.ok.injEq, Prod.mk.injEq] at hscan
            obtain ⟨rfl, rfl⟩ := hscan
            obtain ⟨hleft, hhead, hsome, happend⟩ := scanDigits_append hdigits
            refine ⟨c :: (sign ++ digits), ?_, by simpa using hletter, fun other hother => ?_⟩
            · rw [List.cons_append, List.append_assoc, ← hleft, ← hsign]
            · have hfirst : ∀ c ∈ (digits ++ other).head?, c.isDigit = true :=
                forall_head_append hhead fun hnone => absurd hnone hsome
              rw [List.cons_append, List.append_assoc, scanExponent, if_pos hletter,
                hsigned _ hfirst]
              simp only [happend other fun c hc => (hother c hc).1]
              rfl
      · cases hscan
        exact ⟨[], rfl, by simp, fun other hother => scanExponent_of_ends hother⟩

theorem scan_eq_ok_iff {n : Numeral} :
    scan cs = .ok (n, rest) ↔
      ∃ behindWhole behindFraction,
        scanDigits (scanMinus cs).2 = .ok (n.whole, behindWhole) ∧
        ¬(n.whole.head? = some '0' ∧ n.whole.length ≠ 1) ∧
        scanFraction behindWhole = .ok (n.fraction, behindFraction) ∧
        scanExponent behindFraction = .ok (n.exponent, rest) ∧
        n.negative = (scanMinus cs).1 := by
  rw [scan]
  constructor
  · intro hscan
    obtain ⟨⟨whole, behindWhole⟩, hwhole, hscan⟩ := bind_eq_ok.mp hscan
    dsimp only at hscan
    split at hscan
    · cases hscan
    · rename_i hleads
      obtain ⟨⟨fraction, behindFraction⟩, hfraction, hscan⟩ := bind_eq_ok.mp hscan
      obtain ⟨⟨exponent, left⟩, hexponent, hscan⟩ := bind_eq_ok.mp hscan
      cases hscan
      exact ⟨behindWhole, behindFraction, hwhole, hleads, hfraction, hexponent, rfl⟩
  · rintro ⟨behindWhole, behindFraction, hwhole, hleads, hfraction, hexponent, hnegative⟩
    simp only [hwhole, bind, Except.bind]
    rw [if_neg hleads]
    simp only [hfraction, hexponent, ← hnegative]
    rfl

theorem scan_append {n : Numeral} (hscan : scan cs = .ok (n, rest)) :
    ∃ taken, cs = taken ++ rest ∧
      ∀ other, EndsNumeral other → scan (taken ++ other) = .ok (n, other) := by
  obtain ⟨behindWhole, behindFraction, hwhole, hleads, hfraction, hexponent, hnegative⟩ :=
    scan_eq_ok_iff.mp hscan
  obtain ⟨sign, hsign, hsigned⟩ := scanMinus_append cs
  obtain ⟨hcut, hhead, hsome, hdigits⟩ := scanDigits_append hwhole
  obtain ⟨point, rfl, hpoint, hfractions⟩ := scanFraction_append hfraction
  obtain ⟨letter, rfl, hletter, hexponents⟩ := scanExponent_append hexponent
  refine ⟨sign ++ n.whole ++ point ++ letter, ?_, fun other hother => ?_⟩
  · simp only [List.append_assoc]
    rw [← hcut, ← hsign]
  · -- each part ends where the next one begins, be this empty or not
    have hbehindPoint : ∀ c ∈ (letter ++ other).head?, c.isDigit = false ∧ c ≠ '.' := by
      refine forall_head_append (fun c hc => ?_) fun _ c hc => ?_
      · rcases hletter c hc with rfl | rfl <;> decide
      · exact ⟨(hother c hc).1, (hother c hc).2.1⟩
    have hbehindWhole : ∀ c ∈ (point ++ (letter ++ other)).head?, c.isDigit = false := by
      refine forall_head_append (fun c hc => ?_) fun _ c hc => (hbehindPoint c hc).1
      rw [hpoint c hc]
      decide
    have hminus : scanMinus (sign ++ (n.whole ++ (point ++ (letter ++ other)))) =
        ((scanMinus cs).1, n.whole ++ (point ++ (letter ++ other))) :=
      hsigned _ (forall_head_append hhead fun hnone => absurd hnone hsome)
    simp only [List.append_assoc]
    refine scan_eq_ok_iff.mpr ⟨point ++ (letter ++ other), letter ++ other, ?_, hleads,
      hfractions _ hbehindPoint, hexponents other hother, ?_⟩
    · rw [hminus]
      exact hdigits _ hbehindWhole
    · rw [hminus]
      exact hnegative

end Numeral

namespace Token

/-- Whether a token is a place that cannot be read past. -/
def isBroken : Token → Bool
  | .brokenText _ _ => true
  | .broken _ _ => true
  | _ => false

def isNumber : Token → Bool
  | .number _ => true
  | _ => false

end Token

variable {token : Token} {tokens : List Token}

theorem stringToken_append (htoken : stringToken cs = (token, rest))
    (hwhole : token.isBroken = false) :
    ∃ taken, cs = taken ++ rest ∧ ∀ other, stringToken (taken ++ other) = (token, other) := by
  rw [stringToken] at htoken
  split at htoken
  · rename_i units left hscan
    obtain ⟨taken, rfl, htaken⟩ := scanString_append hscan
    split at htoken <;>
    · rename_i htext
      cases htoken
      refine ⟨taken, rfl, fun other => ?_⟩
      simp only [stringToken, htaken, htext]
  · cases htoken
    cases hwhole

theorem wordToken_append {word : List Char} {meant : Token}
    (htoken : wordToken word meant cs = (token, rest)) (hwhole : token.isBroken = false) :
    ∃ taken, cs = taken ++ rest ∧
      ∀ other, wordToken word meant (taken ++ other) = (token, other) := by
  rw [wordToken] at htoken
  split at htoken
  · rename_i left hword
    obtain ⟨rfl, rfl⟩ := Prod.mk.inj htoken
    refine ⟨word, expectWord_eq_ok_iff.mp hword, fun other => ?_⟩
    rw [wordToken, expectWord_eq_ok_iff.mpr rfl]
  · cases htoken
    cases hwhole

theorem numberToken_append (htoken : numberToken cs = (token, rest))
    (hwhole : token.isBroken = false) :
    token.isNumber = true ∧ ∃ taken, cs = taken ++ rest ∧
      ∀ other, EndsNumeral other → numberToken (taken ++ other) = (token, other) := by
  rw [numberToken] at htoken
  split at htoken
  · rename_i numeral left hscan
    obtain ⟨taken, rfl, htaken⟩ := Numeral.scan_append hscan
    split at htoken <;>
    · rename_i hnumber
      cases htoken
      refine ⟨rfl, taken, rfl, fun other hother => ?_⟩
      simp only [numberToken, htaken other hother, hnumber]
  · cases htoken
    cases hwhole

/-- A token is scanned from its characters, whatever stands behind them that does not go on with a
numeral. -/
theorem exists_lexeme {c : Char} (htoken : tokenAt c cs = (token, rest))
    (hwhole : token.isBroken = false) :
    ∃ taken, cs = taken ++ rest ∧ ∀ other, (token.isNumber = true → EndsNumeral other) →
      tokenAt c (taken ++ other) = (token, other) := by
  have hnumber : ∀ d, numberToken (d :: cs) = (token, rest) →
      (∀ tail, tokenAt d tail = numberToken (d :: tail)) →
        ∃ taken, cs = taken ++ rest ∧ ∀ other, (token.isNumber = true → EndsNumeral other) →
          tokenAt d (taken ++ other) = (token, other) := by
    intro d hscan htokenAt
    have hlength := length_numberToken (List.cons_ne_nil d cs)
    obtain ⟨hnumber, taken, htaken, happend⟩ := numberToken_append hscan hwhole
    cases taken with
    | nil =>
        rw [hscan, htaken] at hlength
        exact absurd hlength (Nat.lt_irrefl _)
    | cons e taken =>
        obtain ⟨rfl, rfl⟩ := List.cons.inj htaken
        exact ⟨taken, rfl, fun other hother => (htokenAt _).trans (happend other (hother hnumber))⟩
  rw [tokenAt.eq_def] at htoken
  split at htoken
  case h_7 =>
    obtain ⟨taken, htaken, happend⟩ := stringToken_append htoken hwhole
    exact ⟨taken, htaken, fun other _ => happend other⟩
  case h_8 | h_9 | h_10 =>
    obtain ⟨taken, htaken, happend⟩ := wordToken_append htoken hwhole
    exact ⟨taken, htaken, fun other _ => happend other⟩
  case h_11 => exact hnumber '-' htoken fun tail => rfl
  case h_12 =>
    split at htoken
    · rename_i hdigit
      exact hnumber _ htoken fun tail => tokenAt_digit hdigit tail
    · cases htoken
      cases hwhole
  all_goals
    cases htoken
    exact ⟨[], rfl, fun other _ => rfl⟩

theorem nextToken_cons {c : Char} (hsolid : isSpace c = false) (cs : List Char) :
    nextToken (c :: cs) = some (tokenAt c cs) := by
  rw [nextToken, List.dropWhile_cons_of_neg (by simp [hsolid])]

theorem nextToken_append {blanks : List Char} {c : Char}
    (hblanks : ∀ d ∈ blanks, isSpace d = true) (hsolid : isSpace c = false) (cs : List Char) :
    nextToken (blanks ++ c :: cs) = some (tokenAt c cs) := by
  rw [← nextToken_cons hsolid, nextToken, nextToken, List.dropWhile_append_of_pos hblanks]

theorem nextToken_eq_none {blanks : List Char} (hblanks : ∀ d ∈ blanks, isSpace d = true) :
    nextToken blanks = none := by
  have hnil : blanks.dropWhile isSpace = [] := by
    rw [← List.append_nil blanks, List.dropWhile_append_of_pos hblanks]
    rfl
  rw [nextToken, hnil]

theorem eq_of_nextToken_none (hnone : nextToken cs = none) : ∀ d ∈ cs, isSpace d = true := by
  rw [nextToken] at hnone
  split at hnone
  · rename_i hnil
    have hall := List.all_takeWhile (p := isSpace) (l := cs)
    rw [← List.takeWhile_append_dropWhile (p := isSpace) (l := cs), hnil, List.append_nil]
    exact List.all_eq_true.mp hall
  · cases hnone

theorem exists_of_nextToken_some (hsome : nextToken cs = some (token, rest)) :
    ∃ blanks c tail, cs = blanks ++ c :: tail ∧ (∀ d ∈ blanks, isSpace d = true) ∧
      isSpace c = false ∧ tokenAt c tail = (token, rest) := by
  rw [nextToken] at hsome
  split at hsome
  · cases hsome
  · rename_i c tail hdrop
    have hsolid : isSpace c = false := by
      have hhead := List.head?_dropWhile_not isSpace cs
      rw [hdrop] at hhead
      simpa using hhead
    refine ⟨cs.takeWhile isSpace, c, tail, ?_, List.all_eq_true.mp List.all_takeWhile, hsolid,
      Option.some.inj hsome⟩
    rw [← hdrop, List.takeWhile_append_dropWhile]

/-- Whether some characters are one token and nothing else. -/
structure IsLexeme (lexeme : List Char) (token : Token) : Prop where
  solid : ∀ c ∈ lexeme.head?, isSpace c = false
  token_eq : nextToken lexeme = some (token, [])
  whole : token.isBroken = false

/-- Whether characters are spelled with some tokens, one after the other, with any blanks before,
between and behind them. -/
inductive Spells : List Char → List Token → Prop where
  | nil {blanks : List Char} (hblanks : ∀ c ∈ blanks, isSpace c = true) : Spells blanks []
  | cons {blanks lexeme rest : List Char} {token : Token} {tokens : List Token}
      (hblanks : ∀ c ∈ blanks, isSpace c = true) (hlexeme : IsLexeme lexeme token)
      (hrest : Spells rest tokens) : Spells (blanks ++ (lexeme ++ rest)) (token :: tokens)

/-- Whether no two numerals stand next to each other. -/
def NumbersApart (tokens : List Token) : Prop :=
  tokens.IsChain fun token next => token.isNumber = true → next.isNumber = false

namespace Document

/-- The tokens of characters. -/
def lex (cs : List Char) : List Token :=
  match _h : nextToken cs with
  | none => []
  | some (token, rest) => token :: lex rest
termination_by cs.length
decreasing_by exact length_nextToken ‹_›

theorem lex_eq (cs : List Char) :
    lex cs =
      match nextToken cs with
      | none => []
      | some (token, rest) => token :: lex rest := by
  rw [lex]
  split
  · rename_i hnone
    rw [hnone]
  · rename_i token rest hsome
    rw [hsome]

theorem build_eq (state : Reading) (cs : List Char) :
    build state cs =
      match nextToken cs with
      | none => state.finish
      | some (token, rest) => build (state.step token) rest := by
  rw [build]
  split
  · rename_i hnone
    rw [hnone]
  · rename_i token rest hsome
    rw [hsome]

theorem build_eq_finish (state : Reading) (cs : List Char) :
    build state cs = ((lex cs).foldl Reading.step state).finish := by
  fun_induction lex cs generalizing state with
  | case1 cs hnone =>
      rw [build_eq, hnone]
      rfl
  | case2 cs token rest hsome ih =>
      rw [build_eq, hsome]
      exact ih (state.step token)

end Document

theorem endsNumeral_of_token {c : Char} (htoken : tokenAt c cs = (token, rest))
    (hwhole : token.isBroken = false) (hnumber : token.isNumber = false) (other : List Char) :
    EndsNumeral (c :: other) := by
  have hbroken : tokenAt c cs ≠ (.broken .malformed .malformed, []) := by
    intro heq
    obtain ⟨rfl, -⟩ := Prod.mk.inj (htoken.symm.trans heq)
    cases hwhole
  apply endsNumeral_cons
  refine ⟨?_, ?_, ?_, ?_⟩
  · cases hdigit : c.isDigit with
    | false => rfl
    | true =>
        rw [tokenAt_digit hdigit] at htoken
        rw [(numberToken_append htoken hwhole).1] at hnumber
        cases hnumber
  all_goals
    rintro rfl
    exact hbroken rfl

theorem endsNumeral_of_space {c : Char} (hspace : isSpace c = true) (other : List Char) :
    EndsNumeral (c :: other) := by
  apply endsNumeral_cons
  simp only [isSpace, Bool.or_eq_true, decide_eq_true_eq] at hspace
  rcases hspace with ((rfl | rfl) | rfl) | rfl <;> decide

theorem IsLexeme.exists_cons {lexeme : List Char} (hlexeme : IsLexeme lexeme token) :
    ∃ c tail, lexeme = c :: tail ∧ isSpace c = false ∧ tokenAt c tail = (token, []) := by
  cases lexeme with
  | nil => cases hlexeme.token_eq
  | cons c tail =>
      have hsolid := hlexeme.solid c rfl
      have htoken := nextToken_cons hsolid tail
      exact ⟨c, tail, rfl, hsolid, Option.some.inj (htoken.symm.trans hlexeme.token_eq)⟩

theorem Spells.endsNumeral (hspells : Spells cs tokens)
    (hnumber : ∀ token ∈ tokens.head?, token.isNumber = false) : EndsNumeral cs := by
  cases hspells with
  | nil hblanks =>
      cases cs with
      | nil => simp [EndsNumeral]
      | cons c cs => exact endsNumeral_of_space (hblanks c List.mem_cons_self) cs
  | @cons blanks lexeme rest token tokens hblanks hlexeme hrest =>
      cases blanks with
      | nil =>
          obtain ⟨c, tail, rfl, -, htoken⟩ := hlexeme.exists_cons
          exact endsNumeral_of_token htoken hlexeme.whole (hnumber token rfl) _
      | cons c blanks => exact endsNumeral_of_space (hblanks c List.mem_cons_self) _

theorem Spells.blanks_append {blanks : List Char} (hblanks : ∀ c ∈ blanks, isSpace c = true)
    (hspells : Spells cs tokens) : Spells (blanks ++ cs) tokens := by
  cases hspells with
  | nil hmore => exact .nil (List.forall_mem_append.mpr ⟨hblanks, hmore⟩)
  | cons hmore hlexeme hrest =>
      rw [← List.append_assoc]
      exact .cons (List.forall_mem_append.mpr ⟨hblanks, hmore⟩) hlexeme hrest

theorem Spells.lex_eq (hspells : Spells cs tokens) (hapart : NumbersApart tokens) :
    Document.lex cs = tokens := by
  induction hspells with
  | nil hblanks => rw [Document.lex_eq, nextToken_eq_none hblanks]
  | @cons blanks lexeme rest token tokens hblanks hlexeme hrest ih =>
      obtain ⟨c, tail, rfl, hsolid, htoken⟩ := hlexeme.exists_cons
      obtain ⟨hnext, hlater⟩ := List.isChain_cons.mp hapart
      obtain ⟨taken, htaken, happend⟩ := exists_lexeme htoken hlexeme.whole
      rw [List.append_nil] at htaken
      subst htaken
      have hends : token.isNumber = true → EndsNumeral rest := fun hnumber =>
        hrest.endsNumeral fun next hhead => hnext next hhead hnumber
      rw [Document.lex_eq, List.cons_append, nextToken_append hblanks hsolid, happend rest hends]
      simp only [ih hlater]

theorem spells_of_nextToken (hnext : nextToken cs = some (token, rest))
    (hwhole : token.isBroken = false) (hrest : Spells rest tokens) :
    Spells cs (token :: tokens) := by
  obtain ⟨blanks, c, tail, rfl, hblanks, hsolid, htoken⟩ := exists_of_nextToken_some hnext
  obtain ⟨taken, rfl, happend⟩ := exists_lexeme htoken hwhole
  have hlexeme : IsLexeme (c :: taken) token := by
    refine ⟨by simpa using hsolid, ?_, hwhole⟩
    rw [nextToken_cons hsolid, ← List.append_nil taken, happend [] fun _ => by simp [EndsNumeral]]
  exact .cons hblanks hlexeme hrest

/-- What can be read past is spelled with its tokens. -/
theorem spells_lex (hwhole : ∀ token ∈ Document.lex cs, token.isBroken = false) :
    Spells cs (Document.lex cs) := by
  fun_induction Document.lex cs with
  | case1 cs hnone => exact .nil (eq_of_nextToken_none hnone)
  | case2 cs token rest hsome ih =>
      have hrest := ih fun token htoken => hwhole token (List.mem_cons_of_mem _ htoken)
      exact spells_of_nextToken hsome (hwhole token List.mem_cons_self) hrest

end Gamebook.Json
