/-!
Paths as text, with slashes between names. A path leads from some folder through the names in it;
nothing else about the text matters to where it leads. A path that is joined with a plain name leads
through this name last (`names_join`), and its folder leads where the path led before
(`names_parent_join`).
-/

namespace Gamebook.Path

/-- A path that goes on with another one. An absolute path replaces what comes before it, and an
empty one leaves a slash at the end. -/
def join (base rest : String) : String :=
  if rest.toList.head? = some '/' ∨ base = "" then rest
  else if base.toList.getLast? = some '/' then base ++ rest
  else base ++ "/" ++ rest

/-- Cuts characters at every slash. -/
def splitSlash : List Char → List (List Char)
  | [] => [[]]
  | c :: rest =>
    if c = '/' then [] :: splitSlash rest
    else
      match splitSlash rest with
      | name :: names => (c :: name) :: names
      | [] => [[c]]

/-- Goes on by one name: two dots lead back, and one dot or nothing leads nowhere else. -/
def follow (names : List String) (name : String) : List String :=
  if name = "" ∨ name = "." then names
  else if name = ".." then names.dropLast
  else names ++ [name]

/-- The names that a path leads through. -/
def names (path : String) : List String :=
  ((splitSlash path.toList).map String.ofList).foldl follow []

/-- Characters without slashes and names of one dot at their end; the first character stays. The
characters come last one first. -/
def trimReversed : List Char → List Char
  | '/' :: c :: rest => trimReversed (c :: rest)
  | '.' :: '/' :: c :: rest => trimReversed (c :: rest)
  | cs => cs

/-- The path of the folder that a path ends in: what stands before its last name. -/
def parent (path : String) : String :=
  let cs := trimReversed path.toList.reverse
  String.ofList (trimReversed (cs.dropWhile (· ≠ '/'))).reverse

/-- Whether a text is a name that leads one step down: it has no slash in it, and is neither empty
nor made of one or two dots. -/
def IsPlain (name : String) : Prop :=
  '/' ∉ name.toList ∧ name ≠ "" ∧ name ≠ "." ∧ name ≠ ".."

theorem splitSlash_ne_nil (cs : List Char) : splitSlash cs ≠ [] := by
  cases cs with
  | nil => simp [splitSlash]
  | cons c rest =>
    rw [splitSlash]
    split
    · simp
    · split <;> simp

theorem splitSlash_append (left right : List Char) :
    splitSlash (left ++ '/' :: right) = splitSlash left ++ splitSlash right := by
  induction left with
  | nil => simp [splitSlash]
  | cons c rest ih =>
    rw [List.cons_append, splitSlash, splitSlash, ih]
    split
    · rfl
    · cases h : splitSlash rest with
      | nil => exact absurd h (splitSlash_ne_nil rest)
      | cons name names => simp

theorem splitSlash_of_not_mem {cs : List Char} (h : '/' ∉ cs) : splitSlash cs = [cs] := by
  induction cs with
  | nil => rfl
  | cons c rest ih =>
    rw [List.mem_cons, not_or] at h
    rw [splitSlash, if_neg fun heq => h.1 heq.symm, ih h.2]

theorem names_slash {base : List Char} {name : String} (h : IsPlain name) :
    names (String.ofList (base ++ '/' :: name.toList)) =
      names (String.ofList base) ++ [name] := by
  obtain ⟨hslash, hempty, hdot, hdots⟩ := h
  rw [names, String.toList_ofList, splitSlash_append, splitSlash_of_not_mem hslash, names,
    String.toList_ofList, List.map_append, List.foldl_append]
  simp [follow, hempty, hdot, hdots]

theorem names_concat_slash (base : List Char) :
    names (String.ofList (base ++ ['/'])) = names (String.ofList base) := by
  rw [names, String.toList_ofList, splitSlash_append, names, String.toList_ofList,
    List.map_append, List.foldl_append]
  simp [splitSlash, follow]

theorem names_concat_dot (base : List Char) :
    names (String.ofList (base ++ ['/', '.'])) = names (String.ofList base) := by
  have hdot : base ++ ['/', '.'] = base ++ '/' :: ['.'] := rfl
  rw [hdot, names, String.toList_ofList, splitSlash_append, names, String.toList_ofList,
    List.map_append, List.foldl_append]
  simp [splitSlash, follow]

theorem names_trimReversed (cs : List Char) :
    names (String.ofList (trimReversed cs).reverse) = names (String.ofList cs.reverse) := by
  fun_induction trimReversed cs with
  | case1 c rest ih =>
    rw [ih, List.reverse_cons (a := '/'), names_concat_slash]
  | case2 c rest ih =>
    rw [ih, List.reverse_cons (a := '.'), List.reverse_cons (a := '/'), List.append_assoc]
    exact (names_concat_dot _).symm
  | case3 => rfl

theorem trimReversed_of_head {c : Char} {rest : List Char} (hslash : c ≠ '/')
    (hdot : c = '.' → rest.head? ≠ some '/') : trimReversed (c :: rest) = c :: rest := by
  rw [trimReversed.eq_def]
  split
  · rename_i heq
    exact absurd (List.cons.inj heq).1 hslash
  · rename_i heq
    obtain ⟨rfl, rfl⟩ := List.cons.inj heq
    exact absurd rfl (hdot rfl)
  · rfl

theorem trimReversed_plain {name : String} (h : IsPlain name) (before : List Char) :
    trimReversed (name.toList.reverse ++ before) = name.toList.reverse ++ before := by
  obtain ⟨hslash, hempty, hdot, -⟩ := h
  cases hrev : name.toList.reverse with
  | nil =>
    rw [List.reverse_eq_nil_iff] at hrev
    exact absurd (String.toList_inj.mp (hrev.trans rfl)) hempty
  | cons c rest =>
    have hmem : ∀ x, x ∈ c :: rest → x ≠ '/' := by
      rintro x hx rfl
      rw [← hrev, List.mem_reverse] at hx
      exact hslash hx
    rw [List.cons_append]
    refine trimReversed_of_head (hmem c (List.mem_cons_self ..)) fun hc => ?_
    cases rest with
    | nil =>
      have hname : name.toList = ['.'] := by
        rw [← List.reverse_reverse name.toList, hrev, hc]
        rfl
      exact absurd (String.toList_inj.mp (hname.trans rfl)) hdot
    | cons second others =>
      have := hmem second (by simp)
      simpa using this

theorem join_eq_or (base : String) {name : String} (h : IsPlain name) :
    (∃ front : List Char, (join base name).toList = front ++ '/' :: name.toList ∧
      names (String.ofList front) = names base) ∨ join base name = name ∧ base = "" := by
  have hhead : name.toList.head? ≠ some '/' := fun heq =>
    h.1 (List.mem_of_mem_head? heq)
  rw [join]
  by_cases hbase : base = ""
  · exact Or.inr ⟨if_pos (Or.inr hbase), hbase⟩
  · rw [if_neg (by simp [hhead, hbase])]
    split
    · rename_i hlast
      obtain ⟨front, hfront⟩ := List.getLast?_eq_some_iff.mp hlast
      refine Or.inl ⟨front, by simp [hfront], ?_⟩
      rw [← names_concat_slash, ← hfront, String.ofList_toList]
    · exact Or.inl ⟨base.toList, by simp, by rw [String.ofList_toList]⟩

theorem names_join {base name : String} (h : IsPlain name) :
    names (join base name) = names base ++ [name] := by
  rcases join_eq_or base h with ⟨front, htext, hnames⟩ | ⟨hjoin, hbase⟩
  · rw [← String.ofList_toList (s := join base name), htext, names_slash h, hnames]
  · obtain ⟨hslash, hempty, hdot, hdots⟩ := h
    rw [hjoin, hbase, names, splitSlash_of_not_mem hslash]
    simp [follow, hempty, hdot, hdots, names, splitSlash]

theorem names_parent_join {base name : String} (h : IsPlain name) :
    names (parent (join base name)) = names base := by
  have hname : ∀ x ∈ name.toList.reverse, decide (x ≠ '/') = true := by
    intro x hx
    have hne : x ≠ '/' := by
      rintro rfl
      exact h.1 (List.mem_reverse.mp hx)
    simpa using hne
  rw [parent, names_trimReversed]
  rcases join_eq_or base h with ⟨front, htext, hnames⟩ | ⟨hjoin, hbase⟩
  · have hrev : (join base name).toList.reverse = name.toList.reverse ++ '/' :: front.reverse := by
      rw [htext]
      simp
    rw [hrev, trimReversed_plain h, List.dropWhile_append_of_pos hname]
    simp only [ne_eq, not_true_eq_false, decide_false, Bool.false_eq_true, not_false_eq_true,
      List.dropWhile_cons_of_neg, List.reverse_cons, List.reverse_reverse]
    rw [names_concat_slash, hnames]
  · have hnil : trimReversed name.toList.reverse = name.toList.reverse := by
      simpa using trimReversed_plain h []
    have hdrop : name.toList.reverse.dropWhile (fun c => decide (c ≠ '/')) = [] := by
      rw [← List.append_nil name.toList.reverse, List.dropWhile_append_of_pos hname]
      rfl
    rw [hjoin, hnil, hdrop, hbase]
    rfl

end Gamebook.Path
