import Gamebook.Proofs.Json.Lexeme

/-!
Trees and the texts that they are written as. A whole tree is read from its tokens, however these
are spelled and whichever blanks stand between them (`Tree.IsWrittenAs.read_eq`); and a text that
can be read to its end is written for the tree that is read from it
(`Document.isWrittenAs_root`).
-/

namespace Gamebook.Json

namespace Tree

mutual

/-- The tokens of a tree, up to a place where it breaks off. -/
def tokens : Tree → List Token
  | .null => [.null]
  | .bool b => [.bool b]
  | .number n => [.number n]
  | .text s => [.text s]
  | .array [] _ => [.openArray, .closeArray]
  | .array (item :: items) _ =>
    .openArray :: (item.tokens ++ (itemTokens items ++ [.closeArray]))
  | .object [] _ => [.openObject, .closeObject]
  | .object ((name, value) :: members) _ =>
    .openObject :: .text name :: .colon ::
      (value.tokens ++ (memberTokens members ++ [.closeObject]))
  | .broken _ => []

/-- The tokens of the items behind the first one. -/
def itemTokens : List Tree → List Token
  | [] => []
  | item :: items => .comma :: (item.tokens ++ itemTokens items)

/-- The tokens of the members behind the first one. -/
def memberTokens : List (Name × Tree) → List Token
  | [] => []
  | (name, value) :: members =>
    .comma :: .text name :: .colon :: (value.tokens ++ memberTokens members)

end

/-- Whether a tree breaks off nowhere. -/
inductive IsWhole : Tree → Prop where
  | null : IsWhole .null
  | bool (b : Bool) : IsWhole (.bool b)
  | number (n : Except Flaw Number) : IsWhole (.number n)
  | text (s : Name) : IsWhole (.text s)
  | array {items : List Tree} (hitems : ∀ item ∈ items, IsWhole item) : IsWhole (.array items none)
  | object {members : List (Name × Tree)} (hmembers : ∀ member ∈ members, IsWhole member.2) :
      IsWhole (.object members none)

theorem isWhole_array_iff {items : List Tree} :
    IsWhole (.array items none) ↔ ∀ item ∈ items, item.IsWhole :=
  ⟨fun hwhole => by cases hwhole; assumption, .array⟩

theorem isWhole_object_iff {members : List (Name × Tree)} :
    IsWhole (.object members none) ↔ ∀ member ∈ members, member.2.IsWhole :=
  ⟨fun hwhole => by cases hwhole; assumption, .object⟩

theorem IsWhole.length_tokens_pos {tree : Tree} (hwhole : tree.IsWhole) :
    0 < tree.tokens.length := by
  cases hwhole with
  | null | bool | number | text => exact Nat.one_pos
  | @array items =>
      cases items <;> exact Nat.succ_pos _
  | @object members =>
      rcases members with - | ⟨⟨name, value⟩, members⟩ <;> exact Nat.succ_pos _

/-- Whether a text is what a tree can be written as, with its tokens spelled in any way and any
blanks between them. -/
structure IsWrittenAs (tree : Tree) (text : String) : Prop where
  whole : tree.IsWhole
  spells : Spells text.toList tree.tokens

end Tree

namespace Reading

/-- Reads some tokens. -/
def run (state : Reading) (tokens : List Token) : Reading :=
  tokens.foldl step state

variable {state : Reading} {token : Token} {tokens rest : List Token} {frames : List Frame}
  {want : Want} {root tree : Tree}

theorem run_cons (state : Reading) (token : Token) (tokens : List Token) :
    state.run (token :: tokens) = (state.step token).run tokens := rfl

theorem run_append (state : Reading) (tokens rest : List Token) :
    state.run (tokens ++ rest) = (state.run tokens).run rest :=
  List.foldl_append

theorem step_value (hwant : want = .value ∨ want = .firstItem) (htoken : token ≠ .closeArray) :
    step (.inside frames want) token = beginValue frames token := by
  rcases hwant with rfl | rfl
  · rfl
  · cases token with
    | closeArray => exact absurd rfl htoken
    | _ => rfl

/-- A tree is read from its tokens wherever a value may begin. -/
def Reads (tree : Tree) : Prop :=
  ∀ frames want, want = .value ∨ want = .firstItem →
    run (.inside frames want) tree.tokens = complete tree frames

theorem run_itemTokens {items : List Tree} (hitems : ∀ item ∈ items, Reads item)
    (done : List Tree) (frames : List Frame) :
    run (.inside (.array done :: frames) .separator) (Tree.itemTokens items ++ [.closeArray]) =
      complete (.array (done.reverse ++ items) none) frames := by
  induction items generalizing done with
  | nil =>
      rw [Tree.itemTokens, List.append_nil]
      rfl
  | cons item items ih =>
      have hitem := hitems item List.mem_cons_self (.array done :: frames) .value (Or.inl rfl)
      have hrest := ih (fun other hother => hitems other (List.mem_cons_of_mem _ hother))
        (item :: done)
      rw [Tree.itemTokens, List.cons_append, List.append_assoc, run_cons, run_append]
      change run (run (.inside (.array done :: frames) .value) item.tokens) _ = _
      rw [hitem]
      change run (.inside (.array (item :: done) :: frames) .separator) _ = _
      rw [hrest, List.reverse_cons, List.append_assoc, List.singleton_append]

theorem run_memberTokens {members : List (Name × Tree)}
    (hmembers : ∀ member ∈ members, Reads member.2) (done : List (Name × Tree))
    (frames : List Frame) :
    run (.inside (.object done none :: frames) .separator)
        (Tree.memberTokens members ++ [.closeObject]) =
      complete (.object (done.reverse ++ members) none) frames := by
  induction members generalizing done with
  | nil =>
      rw [Tree.memberTokens, List.append_nil]
      rfl
  | cons member members ih =>
      obtain ⟨name, value⟩ := member
      have hvalue := hmembers (name, value) List.mem_cons_self
        (.object done (some name) :: frames) .value (Or.inl rfl)
      have hrest := ih (fun other hother => hmembers other (List.mem_cons_of_mem _ hother))
        ((name, value) :: done)
      rw [Tree.memberTokens]
      simp only [List.cons_append, List.append_assoc, run_cons]
      change run (.inside (.object done (some name) :: frames) .value) (value.tokens ++ _) = _
      rw [run_append, hvalue]
      change run (.inside (.object ((name, value) :: done) none :: frames) .separator) _ = _
      rw [hrest, List.reverse_cons, List.append_assoc, List.singleton_append]

theorem reads_of_isWhole (hwhole : tree.IsWhole) : Reads tree := by
  induction hwhole with
  | null | bool | number | text =>
      rintro frames want (rfl | rfl) <;> rfl
  | @array items hitems ih =>
      intro frames want hwant
      have hopen : step (.inside frames want) .openArray =
          .inside (.array [] :: frames) .firstItem :=
        step_value hwant (by simp)
      cases items with
      | nil =>
          rw [Tree.tokens, run_cons, hopen]
          rfl
      | cons item items =>
          have hitem := ih item List.mem_cons_self (.array [] :: frames) .firstItem (Or.inr rfl)
          have hrest := run_itemTokens
            (fun other hother => ih other (List.mem_cons_of_mem _ hother)) [item] frames
          rw [Tree.tokens, run_cons, hopen, run_append, hitem]
          exact hrest
  | @object members hmembers ih =>
      intro frames want hwant
      have hopen : step (.inside frames want) .openObject =
          .inside (.object [] none :: frames) .firstName :=
        step_value hwant (by simp)
      cases members with
      | nil =>
          rw [Tree.tokens, run_cons, hopen]
          rfl
      | cons member members =>
          obtain ⟨name, value⟩ := member
          have hvalue := ih (name, value) List.mem_cons_self
            (.object [] (some name) :: frames) .value (Or.inl rfl)
          have hrest := run_memberTokens
            (fun other hother => ih other (List.mem_cons_of_mem _ hother)) [(name, value)] frames
          rw [Tree.tokens, run_cons, hopen]
          change run (.inside (.object [] (some name) :: frames) .value) (value.tokens ++ _) = _
          rw [run_append, hvalue]
          exact hrest

theorem run_over (document : Document) (tokens : List Token) :
    run (.over document) tokens = .over document := by
  induction tokens with
  | nil => rfl
  | cons token tokens ih => exact ih

theorem run_over_ne (document : Document) (tokens : List Token) :
    run (.over document) tokens ≠ .behind root := by
  rw [run_over]
  rintro ⟨⟩

theorem exists_breakFrame (b : Break) (frames : List Frame) :
    ∃ document, breakFrame b frames = .over document := by
  rcases frames with - | ⟨- | -, frames⟩ <;> exact ⟨_, rfl⟩

theorem exists_step_broken (state : Reading) (hbroken : token.isBroken = true) :
    ∃ document, state.step token = .over document := by
  cases state with
  | behind root => exact ⟨⟨root, true⟩, rfl⟩
  | inside frames want =>
      cases token with
      | brokenText read skip | broken read skip =>
          cases want with
          | value | firstItem | colon => exact ⟨_, rfl⟩
          | firstName | name => exact exists_breakFrame _ frames
          | separator => rcases frames with - | ⟨- | -, frames⟩ <;> exact ⟨_, rfl⟩
      | _ => cases hbroken
  | _ => exact ⟨_, rfl⟩

/-- What is read to its end from a place where a value begins is first a whole tree. -/
def ReadsValue (tokens : List Token) : Prop :=
  ∀ frames root, run (.inside frames .value) tokens = .behind root →
    ∃ tree rest, tokens = Tree.tokens tree ++ rest ∧ tree.IsWhole ∧
      run (complete tree frames) rest = .behind root

/-- What is read to its end from behind an item is first the rest of the array. -/
def ReadsItems (tokens : List Token) : Prop :=
  ∀ done frames root, run (.inside (.array done :: frames) .separator) tokens = .behind root →
    ∃ items rest, tokens = Tree.itemTokens items ++ (.closeArray :: rest) ∧
      (∀ item ∈ items, item.IsWhole) ∧
      run (complete (.array (done.reverse ++ items) none) frames) rest = .behind root

/-- What is read to its end from behind a member is first the rest of the object. -/
def ReadsMembers (tokens : List Token) : Prop :=
  ∀ done frames root,
    run (.inside (.object done none :: frames) .separator) tokens = .behind root →
      ∃ members rest, tokens = Tree.memberTokens members ++ (.closeObject :: rest) ∧
        (∀ member ∈ members, member.2.IsWhole) ∧
        run (complete (.object (done.reverse ++ members) none) frames) rest = .behind root

theorem readsItems_step (hvalue : ∀ later, later.length < tokens.length → ReadsValue later)
    (hitems : ∀ later, later.length < tokens.length → ReadsItems later) : ReadsItems tokens := by
  intro done frames root hrun
  cases tokens with
  | nil => cases hrun
  | cons token tokens =>
      rw [run_cons] at hrun
      cases token with
      | closeArray =>
          refine ⟨[], tokens, rfl, by simp, ?_⟩
          rw [List.append_nil]
          exact hrun
      | comma =>
          obtain ⟨item, rest, rfl, hitem, hrest⟩ :=
            hvalue tokens (Nat.lt_succ_self _) (.array done :: frames) root hrun
          have hshorter : rest.length < (Token.comma :: (item.tokens ++ rest)).length := by
            simp only [List.length_cons, List.length_append]
            omega
          obtain ⟨items, behind, rfl, hwhole, hbehind⟩ :=
            hitems rest hshorter (item :: done) frames root hrest
          refine ⟨item :: items, behind, ?_, ?_, ?_⟩
          · rw [Tree.itemTokens, List.cons_append, List.append_assoc]
          · exact List.forall_mem_cons.mpr ⟨hitem, hwhole⟩
          · rw [List.reverse_cons, List.append_assoc, List.singleton_append] at hbehind
            exact hbehind
      | _ => exact absurd hrun (run_over_ne _ _)

theorem exists_name {done : List (Name × Tree)} {fault : NameFault}
    (hrun : run (beginName (.object done none :: frames) fault token) tokens = .behind root) :
    ∃ name rest, token = .text name ∧ tokens = .colon :: rest ∧
      run (.inside (.object done (some name) :: frames) .value) rest = .behind root := by
  cases token with
  | text name =>
      cases tokens with
      | nil => cases hrun
      | cons token tokens =>
          rw [run_cons] at hrun
          cases token with
          | colon => exact ⟨name, tokens, rfl, rfl, hrun⟩
          | _ => exact absurd hrun (run_over_ne _ _)
  | _ => exact absurd hrun (run_over_ne _ _)

theorem readsMembers_step (hvalue : ∀ later, later.length < tokens.length → ReadsValue later)
    (hmembers : ∀ later, later.length < tokens.length → ReadsMembers later) :
    ReadsMembers tokens := by
  intro done frames root hrun
  cases tokens with
  | nil => cases hrun
  | cons token tokens =>
      rw [run_cons] at hrun
      cases token with
      | closeObject =>
          refine ⟨[], tokens, rfl, by simp, ?_⟩
          rw [List.append_nil]
          exact hrun
      | comma =>
          cases tokens with
          | nil => cases hrun
          | cons token tokens =>
              obtain ⟨name, later, rfl, rfl, hlater⟩ := exists_name hrun
              obtain ⟨value, rest, rfl, hwhole, hrest⟩ :=
                hvalue later (Nat.lt_add_of_pos_right (Nat.zero_lt_succ 2)) _ root hlater
              have hshorter : rest.length < (value.tokens ++ rest).length + 3 := by
                rw [List.length_append]
                omega
              obtain ⟨members, behind, rfl, hmembers, hbehind⟩ :=
                hmembers rest hshorter ((name, value) :: done) frames root hrest
              refine ⟨(name, value) :: members, behind, ?_, ?_, ?_⟩
              · rw [Tree.memberTokens]
                simp
              · exact List.forall_mem_cons.mpr ⟨hwhole, hmembers⟩
              · rw [List.reverse_cons, List.append_assoc, List.singleton_append] at hbehind
                exact hbehind
      | _ => exact absurd hrun (run_over_ne _ _)

theorem exists_array (hvalue : ReadsValue tokens)
    (hitems : ∀ later, later.length < tokens.length → ReadsItems later)
    (hrun : run (.inside (.array [] :: frames) .firstItem) tokens = .behind root) :
    ∃ items rest, .openArray :: tokens = Tree.tokens (.array items none) ++ rest ∧
      (∀ item ∈ items, item.IsWhole) ∧
      run (complete (.array items none) frames) rest = .behind root := by
  cases tokens with
  | nil => cases hrun
  | cons token tokens =>
      by_cases hclose : token = .closeArray
      · subst hclose
        exact ⟨[], tokens, rfl, by simp, hrun⟩
      · -- the first item begins where any value may begin
        have hfirst : run (.inside (.array [] :: frames) .value) (token :: tokens) =
            .behind root := by
          rw [← hrun, run_cons]
          change _ = run (step (.inside (.array [] :: frames) .firstItem) token) tokens
          rw [step_value (Or.inl rfl) hclose, step_value (Or.inr rfl) hclose]
        obtain ⟨item, rest, htokens, hitem, hrest⟩ := hvalue _ root hfirst
        have hshorter : rest.length < (token :: tokens).length := by
          have hpos := hitem.length_tokens_pos
          rw [htokens, List.length_append]
          omega
        obtain ⟨items, behind, rfl, hwhole, hbehind⟩ :=
          hitems rest hshorter [item] frames root hrest
        refine ⟨item :: items, behind, ?_, List.forall_mem_cons.mpr ⟨hitem, hwhole⟩, hbehind⟩
        rw [htokens, Tree.tokens]
        simp

theorem exists_object (hvalue : ∀ later, later.length < tokens.length → ReadsValue later)
    (hmembers : ∀ later, later.length < tokens.length → ReadsMembers later)
    (hrun : run (.inside (.object [] none :: frames) .firstName) tokens = .behind root) :
    ∃ members rest, .openObject :: tokens = Tree.tokens (.object members none) ++ rest ∧
      (∀ member ∈ members, member.2.IsWhole) ∧
      run (complete (.object members none) frames) rest = .behind root := by
  cases tokens with
  | nil => cases hrun
  | cons token tokens =>
      by_cases hclose : token = .closeObject
      · subst hclose
        exact ⟨[], tokens, rfl, by simp, hrun⟩
      · have hname : run (beginName (.object [] none :: frames) (nameFault token) token) tokens =
            .behind root := by
          rw [← hrun]
          cases token with
          | closeObject => exact absurd rfl hclose
          | _ => rfl
        obtain ⟨name, later, rfl, rfl, hlater⟩ := exists_name hname
        obtain ⟨value, rest, rfl, hwhole, hrest⟩ :=
          hvalue later (Nat.lt_add_of_pos_right Nat.two_pos) _ root hlater
        have hshorter : rest.length < (value.tokens ++ rest).length + 2 := by
          rw [List.length_append]
          omega
        obtain ⟨members, behind, rfl, hall, hbehind⟩ :=
          hmembers rest hshorter [(name, value)] frames root hrest
        refine ⟨(name, value) :: members, behind, ?_, List.forall_mem_cons.mpr ⟨hwhole, hall⟩,
          hbehind⟩
        rw [Tree.tokens]
        simp

theorem readsValue_step (hvalue : ∀ later, later.length < tokens.length → ReadsValue later)
    (hitems : ∀ later, later.length < tokens.length → ReadsItems later)
    (hmembers : ∀ later, later.length < tokens.length → ReadsMembers later) :
    ReadsValue tokens := by
  intro frames root hrun
  cases tokens with
  | nil => cases hrun
  | cons token tokens =>
      rw [run_cons] at hrun
      have hlater : ∀ later : List Token, later.length < tokens.length →
          later.length < (token :: tokens).length := fun later hlater => Nat.lt_succ_of_lt hlater
      cases token with
      | null => exact ⟨.null, tokens, rfl, .null, hrun⟩
      | bool b => exact ⟨.bool b, tokens, rfl, .bool b, hrun⟩
      | number n => exact ⟨.number n, tokens, rfl, .number n, hrun⟩
      | text s => exact ⟨.text s, tokens, rfl, .text s, hrun⟩
      | openArray =>
          obtain ⟨items, rest, htokens, hwhole, hrest⟩ :=
            exists_array (hvalue tokens (Nat.lt_succ_self _))
              (fun later hshort => hitems later (hlater later hshort)) hrun
          exact ⟨.array items none, rest, htokens, .array hwhole, hrest⟩
      | openObject =>
          obtain ⟨members, rest, htokens, hwhole, hrest⟩ :=
            exists_object (fun later hshort => hvalue later (hlater later hshort))
              (fun later hshort => hmembers later (hlater later hshort)) hrun
          exact ⟨.object members none, rest, htokens, .object hwhole, hrest⟩
      | _ => exact absurd hrun (run_over_ne _ _)

theorem reads_all (tokens : List Token) :
    ReadsValue tokens ∧ ReadsItems tokens ∧ ReadsMembers tokens := by
  -- the induction is on the number of tokens: each of the three is used for what is left of them
  induction hlength : tokens.length using Nat.strongRecOn generalizing tokens with
  | ind n ih =>
      have hsmaller := fun later hlater => ih (List.length later) (hlength ▸ hlater) later rfl
      have hvalue := fun later hlater => (hsmaller later hlater).1
      have hitems := fun later hlater => (hsmaller later hlater).2.1
      have hmembers := fun later hlater => (hsmaller later hlater).2.2
      exact ⟨readsValue_step hvalue hitems hmembers, readsItems_step hvalue hitems,
        readsMembers_step hvalue hmembers⟩

theorem isBroken_of_run (hrun : run state tokens = .behind root) :
    ∀ token ∈ tokens, token.isBroken = false := by
  induction tokens generalizing state with
  | nil => simp
  | cons token tokens ih =>
      rw [run_cons] at hrun
      refine List.forall_mem_cons.mpr ⟨?_, ih hrun⟩
      cases hbroken : token.isBroken with
      | false => rfl
      | true =>
          obtain ⟨document, hover⟩ := exists_step_broken state hbroken
          rw [hover] at hrun
          exact absurd hrun (run_over_ne _ _)

end Reading

section

variable {token : Token} {tokens rest : List Token} {tree : Tree} {text : String}

theorem numbersApart_append_cons (htoken : token.isNumber = false) :
    NumbersApart (tokens ++ token :: rest) ↔ NumbersApart tokens ∧ NumbersApart rest := by
  rw [NumbersApart, List.isChain_append, List.isChain_cons]
  simp [NumbersApart, htoken]

theorem numbersApart_cons (htoken : token.isNumber = false) :
    NumbersApart (token :: rest) ↔ NumbersApart rest := by
  rw [NumbersApart, List.isChain_cons]
  simp [NumbersApart, htoken]

theorem numbersApart_itemTokens {items : List Tree}
    (hitems : ∀ item ∈ items, NumbersApart item.tokens) (htokens : NumbersApart tokens) :
    NumbersApart (tokens ++ (Tree.itemTokens items ++ [.closeArray])) := by
  induction items generalizing tokens with
  | nil =>
      rw [Tree.itemTokens, List.nil_append, numbersApart_append_cons rfl]
      exact ⟨htokens, List.isChain_nil⟩
  | cons item items ih =>
      have hrest := ih (fun other hother => hitems other (List.mem_cons_of_mem _ hother))
        (hitems item List.mem_cons_self)
      rw [Tree.itemTokens, List.cons_append, List.append_assoc, numbersApart_append_cons rfl]
      exact ⟨htokens, hrest⟩

theorem numbersApart_memberTokens {members : List (Name × Tree)}
    (hmembers : ∀ member ∈ members, NumbersApart member.2.tokens) (htokens : NumbersApart tokens) :
    NumbersApart (tokens ++ (Tree.memberTokens members ++ [.closeObject])) := by
  induction members generalizing tokens with
  | nil =>
      rw [Tree.memberTokens, List.nil_append, numbersApart_append_cons rfl]
      exact ⟨htokens, List.isChain_nil⟩
  | cons member members ih =>
      obtain ⟨name, value⟩ := member
      have hrest := ih (fun other hother => hmembers other (List.mem_cons_of_mem _ hother))
        (hmembers (name, value) List.mem_cons_self)
      rw [Tree.memberTokens]
      simp only [List.cons_append, List.append_assoc]
      rw [numbersApart_append_cons rfl, numbersApart_cons rfl, numbersApart_cons rfl]
      exact ⟨htokens, hrest⟩

theorem Tree.IsWhole.numbersApart (hwhole : tree.IsWhole) : NumbersApart tree.tokens := by
  induction hwhole with
  | null | bool | number | text => exact List.isChain_singleton _
  | @array items hitems ih =>
      cases items with
      | nil => exact (numbersApart_cons rfl).mpr (List.isChain_singleton _)
      | cons item items =>
          rw [tokens, numbersApart_cons rfl]
          exact numbersApart_itemTokens
            (fun other hother => ih other (List.mem_cons_of_mem _ hother))
            (ih item List.mem_cons_self)
  | @object members hmembers ih =>
      cases members with
      | nil => exact (numbersApart_cons rfl).mpr (List.isChain_singleton _)
      | cons member members =>
          obtain ⟨name, value⟩ := member
          rw [tokens, numbersApart_cons rfl, numbersApart_cons rfl, numbersApart_cons rfl]
          exact numbersApart_memberTokens
            (fun other hother => ih other (List.mem_cons_of_mem _ hother))
            (ih (name, value) List.mem_cons_self)

theorem Tree.IsWrittenAs.read_eq (hwritten : tree.IsWrittenAs text) :
    Document.read text = ⟨tree, false⟩ := by
  have hrun := Reading.reads_of_isWhole hwritten.whole [] .value (Or.inl rfl)
  rw [Document.read, Document.build_eq_finish,
    hwritten.spells.lex_eq hwritten.whole.numbersApart]
  change (Reading.run (.inside [] .value) tree.tokens).finish = _
  rw [hrun]
  rfl

/-- Whether a tree is not there to its end. -/
def Tree.isUnfinished : Tree → Bool
  | .array _ (some _) => true
  | .object _ (some _) => true
  | .broken _ => true
  | _ => false

namespace Reading

variable {state : Reading}

theorem isUnfinished_unwind {b : Break} {frames : List Frame} {inner : Tree}
    (hinner : inner.isUnfinished = true) :
    (unwind b inner frames).isUnfinished = true := by
  induction frames generalizing inner with
  | nil => exact hinner
  | cons frame frames ih => rcases frame with items | ⟨members, - | name⟩ <;> exact ih rfl

/-- Whether the document is unfinished, or not all of the text, where reading is over. -/
def StopsShort : Reading → Prop
  | .over document => document.root.isUnfinished = true ∨ document.trailing = true
  | _ => True

theorem stopsShort_breakFrame (b : Break) (frames : List Frame) :
    (breakFrame b frames).StopsShort := by
  rcases frames with - | ⟨- | -, frames⟩
  · exact Or.inl rfl
  · exact Or.inl (isUnfinished_unwind rfl)
  · exact Or.inl (isUnfinished_unwind rfl)

theorem stopsShort_breakValue (frames : List Frame) (b : Break) :
    (breakValue frames b).StopsShort :=
  Or.inl (isUnfinished_unwind rfl)

theorem stopsShort_complete (value : Tree) (frames : List Frame) :
    (complete value frames).StopsShort := by
  rcases frames with - | ⟨items | ⟨members, - | name⟩, frames⟩ <;> exact trivial

theorem stopsShort_closeFrame (frames : List Frame) : (closeFrame frames).StopsShort := by
  rcases frames with - | ⟨- | -, frames⟩
  · exact stopsShort_breakValue [] _
  · exact stopsShort_complete _ frames
  · exact stopsShort_complete _ frames

theorem stopsShort_beginValue (frames : List Frame) (token : Token) :
    (beginValue frames token).StopsShort := by
  cases token with
  | null | bool | number | text => exact stopsShort_complete _ frames
  | openArray | openObject => exact trivial
  | _ => exact stopsShort_breakValue frames _

theorem stopsShort_beginName (frames : List Frame) (fault : NameFault) (token : Token) :
    (beginName frames fault token).StopsShort := by
  cases token with
  | text name =>
      have hbreak := stopsShort_breakFrame (.all .malformed) frames
      rcases frames with - | ⟨_ | _, frames⟩
      · exact hbreak
      · exact hbreak
      · exact trivial
  | _ => exact stopsShort_breakFrame _ frames

theorem stopsShort_separator (frames : List Frame) (token : Token) :
    (step (.inside frames .separator) token).StopsShort := by
  have hbreak := stopsShort_breakFrame (.all .malformed) frames
  rcases frames with - | ⟨items | ⟨members, current⟩, frames⟩
  · exact hbreak
  · cases token with
    | closeArray => exact stopsShort_closeFrame (.array items :: frames)
    | comma => exact trivial
    | _ => exact hbreak
  · cases token with
    | closeObject => exact stopsShort_closeFrame (.object members none :: frames)
    | comma => exact trivial
    | _ => exact hbreak

theorem StopsShort.step (hstate : state.StopsShort) (token : Token) :
    (state.step token).StopsShort := by
  cases state with
  | behind root => exact Or.inr rfl
  | inside frames want =>
      have hvalue := stopsShort_beginValue frames token
      cases want with
      | value => exact hvalue
      | firstItem =>
          cases token with
          | closeArray => exact stopsShort_closeFrame frames
          | _ => exact hvalue
      | firstName =>
          have hname := stopsShort_beginName frames (nameFault token) token
          cases token with
          | closeObject => exact stopsShort_closeFrame frames
          | _ => exact hname
      | name => exact stopsShort_beginName frames _ token
      | colon =>
          cases token with
          | colon => exact trivial
          | _ => exact stopsShort_breakValue frames _
      | separator => exact stopsShort_separator frames token
  | _ => exact hstate

theorem StopsShort.run (hstate : state.StopsShort) (tokens : List Token) :
    (state.run tokens).StopsShort := by
  induction tokens generalizing state with
  | nil => exact hstate
  | cons token tokens ih => exact ih (hstate.step token)

theorem isUnfinished_finish_inside (frames : List Frame) (want : Want) :
    (finish (.inside frames want)).root.isUnfinished = true := by
  cases want with
  | value | colon => exact isUnfinished_unwind rfl
  | firstItem | firstName | name | separator =>
      rcases frames with - | ⟨- | -, frames⟩
      · rfl
      · exact isUnfinished_unwind rfl
      · exact isUnfinished_unwind rfl

theorem StopsShort.eq_behind (hstate : state.StopsShort)
    (hroot : state.finish.root.isUnfinished = false) (htrailing : state.finish.trailing = false) :
    state = .behind state.finish.root := by
  cases state with
  | behind root => rfl
  | inside frames want =>
      have hopen := isUnfinished_finish_inside frames want
      exact absurd (hopen.symm.trans hroot) (by decide)
  | _ =>
      rcases hstate with hopen | hmore
      · exact absurd (hopen.symm.trans hroot) (by decide)
      · exact absurd (hmore.symm.trans htrailing) (by decide)

end Reading

theorem Document.isWrittenAs_root (hroot : (read text).root.isUnfinished = false)
    (htrailing : (read text).trailing = false) : (read text).root.IsWrittenAs text := by
  have hread : read text = (Reading.run (.inside [] .value) (lex text.toList)).finish :=
    build_eq_finish _ _
  rw [hread] at hroot htrailing ⊢
  have hstart : Reading.StopsShort (.inside [] .value) := trivial
  have hrun := (hstart.run (lex text.toList)).eq_behind hroot htrailing
  obtain ⟨tree, rest, htokens, hwhole, hrest⟩ := (Reading.reads_all (lex text.toList)).1 [] _ hrun
  have hlexemes := spells_lex (Reading.isBroken_of_run hrun)
  cases rest with
  | nil =>
      obtain rfl := Reading.behind.inj hrest
      rw [htokens, List.append_nil] at hlexemes
      exact ⟨hwhole, hlexemes⟩
  | cons token rest => exact absurd hrest (Reading.run_over_ne ⟨tree, true⟩ rest)

end

end Gamebook.Json
