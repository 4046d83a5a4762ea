import Gamebook.CommandLine
import Gamebook.Play.Gate
import Gamebook.Proofs.Commands.StatArguments
import Gamebook.Proofs.Library.ChoicePlaces

namespace Gamebook

open CommandLine

variable {name : String}

/-- The argument that asks for a least value of a stat. -/
def statArgument (name : String) (least : Int64) : String :=
  name ++ "=" ++ Text.numeral least.toInt

theorem toList_statArgument (name : String) (least : Int64) :
    (statArgument name least).toList =
      name.toList ++ '=' :: (Text.numeral least.toInt).toList := by
  simp [statArgument]

theorem parseStat_eq_ok_iff {raw : String} {before after : List Char} {stat : String × Int64}
    (hbefore : '=' ∉ before) (hraw : raw.toList = before ++ '=' :: after) :
    parseStat raw = .ok stat ↔
      Text.isBlank (String.ofList before) = false ∧
      Text.readInt64? (Text.trim (String.ofList after)) = some stat.2 ∧
      stat.1 = Text.trim (String.ofList before) := by
  rw [parseStat_of_split hraw hbefore, ← Bool.not_eq_true, ← Text.trim_eq_empty_iff]
  split
  · rename_i hblank
    simp [hblank]
  · rename_i hnamed
    cases hread : Text.readInt64? (Text.trim (String.ofList after)) with
    | none => simp
    | some n => simp [hnamed, Prod.ext_iff, eq_comm, and_comm]

theorem parseStat_statArgument {least : Int64} {stat : String × Int64} :
    parseStat (statArgument name least) = .ok stat ↔
      ('=' ∉ name.toList ∧ Text.isBlank name = false) ∧ stat = (Text.trim name, least) := by
  have hraw := toList_statArgument name least
  by_cases hplain : '=' ∈ name.toList
  · -- what stands behind the first equals sign has another one in it, and is no number
    obtain ⟨before, after, hname, hbefore⟩ := List.eq_append_cons_of_mem hplain
    rw [hname, List.append_assoc, List.cons_append] at hraw
    have hequals : '=' ∈ (Text.trim (String.ofList
        (after ++ '=' :: (Text.numeral least.toInt).toList))).toList :=
      Text.mem_trim (by simp) (by decide)
    have hnone := Text.readInt64?_eq_none hequals (by decide) (by decide) (by decide)
    rw [parseStat_eq_ok_iff hbefore hraw, hnone]
    simp [hplain]
  · rw [parseStat_eq_ok_iff hplain hraw, String.ofList_toList, String.ofList_toList,
      Text.trim_numeral, Text.readInt64?_numeral, Option.some_inj, Prod.ext_iff]
    constructor
    · rintro ⟨hnamed, hleast, hname⟩
      exact ⟨⟨hplain, hnamed⟩, hname, hleast.symm⟩
    · rintro ⟨⟨-, hnamed⟩, hname, hleast⟩
      exact ⟨hnamed, hleast.symm, hname⟩

theorem Requirement.isMet_stat {stat : String} {least : Int64} {state : PlayerState} :
    (Requirement.mk [] (.ofList [(stat, least)])).isMet state = true ↔
      least ≤ state.statOrZero stat := by
  have hentries : (Dict.ofList [(stat, least)]).entries = [(stat, least)] := rfl
  simp [isMet, hentries]

namespace CommandLine

theorem form_statOption (argument : String) :
    Form.of ("--stat=" ++ argument) = .long "stat" (some argument) := by
  have hchars : ("--stat=" ++ argument).toList =
      '-' :: '-' :: 's' :: 't' :: 'a' :: 't' :: '=' :: argument.toList := by
    rw [String.toList_append]
    rfl
  simp [Form.of, hchars]

/-- The arguments and options of the command that gates a choice. -/
def requireShape : Shape :=
  ⟨"story-require", [.text, .text, .index], [("item", .text), ("stat", .stat)]⟩

theorem gather_plain {shape : Shape} {gathered : Gathered} {argument : String}
    {rest : List String} {kind : Kind} (hform : Form.of argument = .plain)
    (hkind : shape.arguments[gathered.arguments.length]? = some kind)
    (hfits : Gathered.fits kind argument = true) :
    gathered.gather shape (argument :: rest) =
      Gathered.gather shape { gathered with arguments := gathered.arguments ++ [argument] }
        rest := by
  rw [Gathered.gather, hform]
  simp only [Gathered.addArgument, hkind, hfits]
  rfl

theorem gather_stat {gathered : Gathered} {argument : String} {rest : List String}
    {stat : String × Int64} (hstat : parseStat argument = .ok stat) :
    gathered.gather requireShape (("--stat=" ++ argument) :: rest) =
      Gathered.gather requireShape { gathered with stats := gathered.stats ++ [stat] } rest := by
  have hvalue : gathered.addValue requireShape "stat" argument =
      .ok { gathered with stats := gathered.stats ++ [stat] } := by
    have hglobal : gathered.globals.set "stat" argument = .none := by simp [Globals.set]
    have hoption : Dict.lookup "stat" requireShape.options = some .stat := by decide
    rw [Gathered.addValue, hglobal, hoption]
    simp only [hstat]
  have hknown :
      ¬isGlobal "stat" = true ∧ Dict.lookup "stat" requireShape.options = .none ↔ False := by
    decide
  rw [Gathered.gather, form_statOption]
  simp only [hknown, hvalue]
  rfl

theorem parse_require {id scene index argument : String} {place : Nat} {stat : String × Int64}
    (hid : Form.of id = .plain) (hscene : Form.of scene = .plain) (hindex : Form.of index = .plain)
    (hplace : Text.readIndex? index = some place) (hstat : parseStat argument = .ok stat) :
    parse ["story-require", id, scene, index, "--stat=" ++ argument] =
      .ok ⟨.none, .require id scene place ⟨[], .ofList [stat]⟩⟩ := by
  have hname : Form.of "story-require" = .plain := rfl
  have hshape : shapes.find? (·.name = "story-require") = some requireShape := rfl
  have hgather : Gathered.none.gather requireShape [id, scene, index, "--stat=" ++ argument] =
      .ok ⟨.none, [id, scene, index], [], [], [stat]⟩ := by
    rw [gather_plain hid rfl rfl, gather_plain hscene rfl rfl,
      gather_plain hindex rfl (by rw [Gathered.fits, hplace]; rfl), gather_stat hstat]
    rfl
  have hcommand : (Gathered.mk .none [id, scene, index] [] [] [stat]).command? requireShape =
      (Text.readIndex? index).map fun place => .require id scene place ⟨[], .ofList [stat]⟩ := rfl
  rw [hplace] at hcommand
  rw [parse, parseFrom, hname]
  simp only [hshape, hgather, bind, Except.bind, hcommand, Option.map_some]
  rfl

end CommandLine

theorem Library.stat_argument_gates {library : Library} {id : String} {value : Int64}
    {top after : Entry} (hrun : (library.setInitialStat id name value).run top = (.ok (), after))
    (hplain : '=' ∉ name.toList) (least : Int64) :
    parseStat (statArgument name least) = .ok (Text.trim name, least) ∧
    (Text.trim name = name ↔ Text.IsTrim name) ∧
    (∀ story scene index place, Form.of story = .plain → Form.of scene = .plain →
      Form.of index = .plain → Text.readIndex? index = some place →
        parse ["story-require", story, scene, index, "--stat=" ++ statArgument name least] =
          .ok ⟨.none, .require story scene place ⟨[], .ofList [(Text.trim name, least)]⟩⟩) ∧
    ∀ state, (Requirement.mk [] (.ofList [(Text.trim name, least)])).isMet state = true ↔
      least ≤ state.statOrZero (Text.trim name) := by
  obtain ⟨⟨⟩, checked, hcheck, -⟩ := FileAction.run_bind_eq_ok.mp hrun
  obtain ⟨hnamed, -⟩ := checkName_eq_ok.mp hcheck
  have hstat : parseStat (statArgument name least) = .ok (Text.trim name, least) :=
    parseStat_statArgument.mpr ⟨⟨hplain, hnamed⟩, rfl⟩
  refine ⟨hstat, Text.trim_eq_iff, ?_, fun state => Requirement.isMet_stat⟩
  intro story scene index place hstory hscene hindex hplace
  exact parse_require hstory hscene hindex hplace hstat

theorem exists_setInitialStat (name : String) (hnamed : Text.isBlank name = false) :
    ∃ after, (Library.here.setInitialStat "cave" name 3).run dugOut = (.ok (), after) := by
  obtain ⟨after, hrun, -⟩ := drafts_dugOut.exists_perform (.setInitialStat name 3) hnamed
    (StoryEdit.makes_setInitialStat.mpr rfl)
  exact ⟨after, hrun⟩

theorem stat_argument_gates_gold :
    parseStat "gold=-9223372036854775808" = .ok ("gold", Int64.minValue) := by
  obtain ⟨after, hrun⟩ := exists_setInitialStat "gold" (by decide)
  obtain ⟨hstat, htrim, -⟩ := Library.stat_argument_gates hrun (by decide) Int64.minValue
  have hgold : Text.trim "gold" = "gold" :=
    htrim.mpr ⟨by simp; decide, by simp; decide⟩
  rw [hgold] at hstat
  exact hstat

/-- A stat whose name begins with a blank can be set, and cannot be gated; nor can one whose name
has an equals sign in it. -/
theorem exists_stat_not_gated :
    (∃ after, (Library.here.setInitialStat "cave" " gold" 3).run dugOut = (.ok (), after)) ∧
    parseStat (statArgument " gold" 3) = .ok ("gold", 3) ∧
    (PlayerState.begin (Story.dug.setInitialStat " gold" 3) "ada").statOrZero " gold" = 3 ∧
    (Requirement.mk [] (.ofList [("gold", 3)])).isMet
      (.begin (Story.dug.setInitialStat " gold" 3) "ada") = false ∧
    (∃ after, (Library.here.setInitialStat "cave" "a=b" 3).run dugOut = (.ok (), after)) ∧
    ∀ stat, parseStat (statArgument "a=b" 3) ≠ .ok stat := by
  refine ⟨exists_setInitialStat " gold" (by decide), rfl, rfl, rfl,
    exists_setInitialStat "a=b" (by decide), ?_⟩
  intro stat hstat
  have hplain := parseStat_statArgument.mp hstat
  exact hplain.1.1 (by decide)

end Gamebook
