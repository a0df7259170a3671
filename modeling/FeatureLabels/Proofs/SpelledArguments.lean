import Mathlib.Data.List.Nodup
import FeatureLabels.CommandLine
import FeatureLabels.Text.Cut

/-!
What arguments spell. Arguments are flags with their values, each value after an equals sign or as
an argument of its own, and two dashes may end them. Exactly such arguments are read, provided that
no flag comes twice and that each parameter accepts its value.
-/

namespace FeatureLabels

open Text

namespace Parameter

variable {p q : Parameter} {name value : String}

def dashed (p : Parameter) : String := "--" ++ p.flag

def joined (p : Parameter) (value : String) : String := p.dashed ++ "=" ++ value

theorem ofFlag?_eq_some_iff : ofFlag? name = some p ↔ name = p.flag := by
  constructor
  · intro h
    have hflag := List.find?_some h
    exact (beq_iff_eq.mp hflag).symm
  · rintro rfl
    cases p <;> decide

theorem flag_injective (h : p.flag = q.flag) : p = q := by
  have hp : ofFlag? p.flag = some p := ofFlag?_eq_some_iff.mpr rfl
  rw [ofFlag?_eq_some_iff.mpr h] at hp
  exact (Option.some.inj hp).symm

theorem flag_ne_help (p : Parameter) : p.flag ≠ "help" := by
  cases p <;> decide

theorem flag_ne_empty (p : Parameter) : p.flag ≠ "" := by
  cases p <;> decide

theorem equals_notMem_flag (p : Parameter) : '=' ∉ p.flag.toList := by
  cases p <;> decide

theorem joined_eq (p : Parameter) (value : String) :
    p.joined value = "--" ++ uncut '=' p.flag (some value) := by
  rw [joined, dashed, uncut, String.append_assoc, String.append_assoc, String.append_assoc]

end Parameter

namespace Argument

variable {text name rest : String} {value : Option String}

/-- A text can be the value after a flag unless it starts with a dash. A single dash can be one. -/
def CanFollow (text : String) : Prop := text.toList.head? = some '-' → text = "-"

theorem ofText_dashes (h : rest ≠ "") :
    ofText ("--" ++ rest) = .long (cutAt '=' rest).1 (cutAt '=' rest).2 := by
  have hlist : ("--" ++ rest).toList = '-' :: '-' :: rest.toList := String.toList_append
  have hcut := cutAt_ofList '=' rest.toList
  rw [String.ofList_toList] at hcut
  rw [ofText, hlist, hcut]
  cases hrest : rest.toList with
  | nil => exact absurd (String.toList_eq_nil_iff.mp hrest) h
  | cons c cs => rfl

theorem ofText_dashed (p : Parameter) : ofText p.dashed = .long p.flag none := by
  have hcut : cutAt '=' p.flag = (p.flag, none) := cutAt_uncut p.equals_notMem_flag none
  rw [Parameter.dashed, ofText_dashes p.flag_ne_empty, hcut]

theorem ofText_joined (p : Parameter) (value : String) :
    ofText (p.joined value) = .long p.flag (some value) := by
  have hcut := cutAt_uncut p.equals_notMem_flag (some value)
  have hne : uncut '=' p.flag (some value) ≠ "" := by
    intro hempty
    rw [hempty] at hcut
    exact absurd (congrArg Prod.snd hcut) (by simp [cutAt])
  rw [p.joined_eq, ofText_dashes hne, hcut]

theorem ofText_of_canFollow (h : CanFollow text) : ofText text = .plain text := by
  rw [ofText]
  split
  case h_4 => rfl
  all_goals
    rename_i hlist
    have hdash := h (by rw [hlist]; rfl)
    subst hdash
    simp at hlist

theorem ofText_escape : ofText "--" = .escape := by decide

theorem CanFollow.ne_joined (h : CanFollow text) (p : Parameter) (value : String) :
    text ≠ p.joined value := by
  rintro rfl
  have hshape := ofText_of_canFollow h
  rw [ofText_joined] at hshape
  cases hshape

theorem CanFollow.ne_dashed (h : CanFollow text) (p : Parameter) : text ≠ p.dashed := by
  rintro rfl
  have hshape := ofText_of_canFollow h
  rw [ofText_dashed] at hshape
  cases hshape

theorem text_of_escape (h : ofText text = .escape) : text = "--" := by
  rw [ofText] at h
  split at h
  case h_1 hlist => exact String.toList_inj.mp hlist
  all_goals cases h

theorem text_of_long (h : ofText text = .long name value) :
    text = "--" ++ uncut '=' name value := by
  have hshape := h
  rw [ofText] at hshape
  split at hshape
  case h_2 cs hne hlist =>
    have htext : text = "--" ++ String.ofList cs := by
      apply String.toList_inj.mp
      simpa [String.toList_append] using hlist
    have hrest : String.ofList cs ≠ "" := by simpa using hne
    rw [htext, ofText_dashes hrest] at h
    obtain ⟨hname, hvalue⟩ := Argument.long.inj h
    rw [htext, ← hname, ← hvalue, uncut_cutAt]
  all_goals cases hshape

theorem joined_inj {p q : Parameter} {value other : String} (h : p.joined value = q.joined other) :
    p = q ∧ value = other := by
  have hshape := congrArg ofText h
  rw [ofText_joined, ofText_joined, long.injEq, Option.some.injEq] at hshape
  exact ⟨Parameter.flag_injective hshape.1, hshape.2⟩

theorem dashed_injective {p q : Parameter} (h : p.dashed = q.dashed) : p = q := by
  have hshape := congrArg ofText h
  rw [ofText_dashed, ofText_dashed, long.injEq] at hshape
  exact Parameter.flag_injective hshape.1

theorem joined_ne_dashed (p q : Parameter) (value : String) : p.joined value ≠ q.dashed := by
  intro h
  have hshape := congrArg ofText h
  rw [ofText_joined, ofText_dashed, long.injEq] at hshape
  exact absurd hshape.2 (Option.some_ne_none value)

theorem escape_ne_joined (p : Parameter) (value : String) : "--" ≠ p.joined value := by
  intro h
  have hshape := congrArg ofText h
  rw [ofText_escape, ofText_joined] at hshape
  cases hshape

theorem escape_ne_dashed (p : Parameter) : "--" ≠ p.dashed := by
  intro h
  have hshape := congrArg ofText h
  rw [ofText_escape, ofText_dashed] at hshape
  cases hshape

theorem canFollow_of_plain {other : String} (h : ofText text = .plain other) :
    other = text ∧ CanFollow text := by
  rw [ofText] at h
  split at h
  case h_4 hshort =>
    refine ⟨(Argument.plain.inj h).symm, fun hhead => ?_⟩
    obtain ⟨cs, hlist⟩ := List.head?_eq_some_iff.mp hhead
    cases cs with
    | nil => exact String.toList_inj.mp hlist
    | cons letter rest => exact absurd hlist (hshort letter rest)
  all_goals cases h

end Argument

namespace Given

open Argument

variable {given next result : Given} {p : Parameter} {value : String} {args rest : List String}

theorem add_eq_ok_iff :
    given.add p (some value) = .ok next ↔
      given.value? p = none ∧ p.accepts value = true ∧ next = given ++ [(p, value)] := by
  rw [add]
  cases given.value? p with
  | some earlier => simp
  | none => cases p.accepts value <;> simp [eq_comm]

theorem read_settled :
    given.read (some (p, some value)) args = .ok result ↔
      ∃ next, given.add p (some value) = .ok next ∧ next.read none args = .ok result := by
  cases args with
  | nil => cases hadd : given.add p (some value) <;> simp [read, settle, hadd]
  | cons text rest =>
      cases hshape : Argument.ofText text with
      | escape =>
          cases rest <;> cases hadd : given.add p (some value) <;>
            simp [read, settle, hadd, hshape]
      | long name value' =>
          by_cases hhelp : name = "help"
          · cases value' <;> cases hadd : given.add p (some value) <;>
              simp [read, settle, hadd, hshape, hhelp, Except.bind]
          · cases hflag : Parameter.ofFlag? name <;>
              cases hadd : given.add p (some value) <;>
              simp [read, settle, hadd, hshape, hhelp, hflag]
      | short letter =>
          cases hadd : given.add p (some value) <;>
            by_cases hhelp : letter = 'h' <;> simp [read, settle, hadd, hshape, hhelp, Except.bind]
      | plain other => simp [read, hshape]

theorem read_joined :
    given.read none (p.joined value :: rest) = .ok result ↔
      ∃ next, given.add p (some value) = .ok next ∧ next.read none rest = .ok result := by
  rw [read, ofText_joined]
  simp only [p.flag_ne_help, if_false, Parameter.ofFlag?_eq_some_iff.mpr (Eq.refl p.flag), settle]
  cases given.add p (some value) <;> simp

theorem read_dashed (h : CanFollow value) :
    given.read none (p.dashed :: value :: rest) = .ok result ↔
      ∃ next, given.add p (some value) = .ok next ∧ next.read none rest = .ok result := by
  rw [← read_settled, read, ofText_dashed]
  simp only [p.flag_ne_help, if_false, Parameter.ofFlag?_eq_some_iff.mpr (Eq.refl p.flag), settle]
  rw [read, ofText_of_canFollow h]

theorem exists_value_of_read (h : given.read (some (p, none)) args = .ok result) :
    ∃ value rest, args = value :: rest ∧ CanFollow value := by
  cases args with
  | nil => simp [read, settle, add] at h
  | cons text rest =>
      cases hshape : Argument.ofText text with
      | escape => cases rest <;> simp [read, hshape, settle, add] at h
      | long name value =>
          by_cases hhelp : name = "help"
          · cases value <;> simp [read, hshape, hhelp, settle, add, Except.bind] at h
          · cases hflag : Parameter.ofFlag? name <;>
              simp [read, hshape, hhelp, hflag, settle, add] at h
      | short letter =>
          by_cases hhelp : letter = 'h' <;>
            simp [read, hshape, hhelp, settle, add, Except.bind] at h
      | plain other => exact ⟨text, rest, rfl, (canFollow_of_plain hshape).2⟩

theorem shape_of_read (h : given.read none args = .ok result) :
    args = [] ∨ args = ["--"] ∨
      (∃ (p : Parameter) (value : String) (rest : List String), args = p.joined value :: rest) ∨
      ∃ (p : Parameter) (value : String) (rest : List String),
        args = p.dashed :: value :: rest ∧ CanFollow value := by
  cases args with
  | nil => exact .inl rfl
  | cons text rest =>
      cases hshape : Argument.ofText text with
      | escape =>
          cases rest with
          | nil => exact .inr (.inl (by rw [text_of_escape hshape]))
          | cons _ _ => simp [read, hshape] at h
      | long name value =>
          have htext := text_of_long hshape
          by_cases hhelp : name = "help"
          · cases value <;> simp [read, hshape, hhelp, settle, Except.bind] at h
          · cases hflag : Parameter.ofFlag? name with
            | none => simp [read, hshape, hhelp, hflag] at h
            | some p =>
                obtain rfl := Parameter.ofFlag?_eq_some_iff.mp hflag
                cases value with
                | some value =>
                    exact .inr (.inr (.inl ⟨p, value, rest, by rw [htext, p.joined_eq]⟩))
                | none =>
                    simp only [read, hshape, hhelp, hflag, settle, if_false] at h
                    obtain ⟨value, rest, rfl, hvalue⟩ := exists_value_of_read h
                    exact .inr (.inr (.inr ⟨p, value, rest, by rw [htext]; rfl, hvalue⟩))
      | short letter =>
          by_cases hhelp : letter = 'h' <;> simp [read, hshape, hhelp, settle, Except.bind] at h
      | plain other => simp [read, hshape] at h

end Given

open Argument

/-- What arguments spell: flags and their values, in their order. -/
inductive Spells : List String → Given → Prop
  | nothing : Spells [] []
  | escape : Spells ["--"] []
  | joined {p : Parameter} {value : String} {rest : List String} {given : Given} :
      Spells rest given → Spells (p.joined value :: rest) ((p, value) :: given)
  | dashed {p : Parameter} {value : String} {rest : List String} {given : Given} :
      CanFollow value → Spells rest given →
        Spells (p.dashed :: value :: rest) ((p, value) :: given)

namespace Given

variable {given spelled result : Given} {p q : Parameter} {value : String} {args : List String}

/-- Flags can be given on top of others: none of them is there already, none comes twice, and each
parameter accepts its value. -/
structure Takes (given spelled : Given) : Prop where
  free : ∀ g ∈ spelled, given.value? g.1 = none
  accepted : ∀ g ∈ spelled, g.1.accepts g.2 = true
  distinct : (spelled.map Prod.fst).Nodup

theorem value?_concat :
    (given ++ [(p, value)]).value? q = none ↔ given.value? q = none ∧ p ≠ q := by
  simp [value?]

theorem takes_cons :
    given.Takes ((p, value) :: spelled) ↔
      given.value? p = none ∧ p.accepts value = true ∧ (given ++ [(p, value)]).Takes spelled := by
  constructor
  · rintro ⟨hfree, haccepted, hdistinct⟩
    obtain ⟨hnew, hfree⟩ := List.forall_mem_cons.mp hfree
    obtain ⟨hvalue, haccepted⟩ := List.forall_mem_cons.mp haccepted
    rw [List.map_cons, List.nodup_cons] at hdistinct
    refine ⟨hnew, hvalue, fun g hg => ?_, haccepted, hdistinct.2⟩
    refine value?_concat.mpr ⟨hfree g hg, ?_⟩
    intro heq
    exact hdistinct.1 (List.mem_map.mpr ⟨g, hg, heq.symm⟩)
  · rintro ⟨hnew, hvalue, hfree, haccepted, hdistinct⟩
    refine ⟨List.forall_mem_cons.mpr ⟨hnew, fun g hg => (value?_concat.mp (hfree g hg)).1⟩,
      List.forall_mem_cons.mpr ⟨hvalue, haccepted⟩, ?_⟩
    rw [List.map_cons, List.nodup_cons]
    refine ⟨fun hmem => ?_, hdistinct⟩
    obtain ⟨g, hg, heq⟩ := List.mem_map.mp hmem
    exact (value?_concat.mp (hfree g hg)).2 heq.symm

theorem read_of_spells (h : Spells args spelled) (htakes : given.Takes spelled) :
    given.read none args = .ok (given ++ spelled) := by
  induction h generalizing given with
  | nothing => simp [read, settle]
  | escape => simp [read, settle, ofText_escape]
  | joined _ ih =>
      obtain ⟨hnew, hvalue, htakes⟩ := takes_cons.mp htakes
      refine read_joined.mpr ⟨_, add_eq_ok_iff.mpr ⟨hnew, hvalue, rfl⟩, ?_⟩
      rw [ih htakes, List.append_assoc, List.singleton_append]
  | dashed hfollow _ ih =>
      obtain ⟨hnew, hvalue, htakes⟩ := takes_cons.mp htakes
      refine (read_dashed hfollow).mpr ⟨_, add_eq_ok_iff.mpr ⟨hnew, hvalue, rfl⟩, ?_⟩
      rw [ih htakes, List.append_assoc, List.singleton_append]

theorem exists_spells_of_read (h : given.read none args = .ok result) :
    ∃ spelled, Spells args spelled ∧ given.Takes spelled ∧ result = given ++ spelled := by
  -- A flag and its value can be two arguments, so the induction is on the number of arguments.
  induction hlength : args.length using Nat.strongRecOn generalizing args given with
  | ind length ih =>
      subst hlength
      rcases shape_of_read h with rfl | rfl | ⟨p, value, rest, rfl⟩ | ⟨p, value, rest, rfl, hfollow⟩
      · have hresult : given = result := by simpa [read, settle] using h
        exact ⟨[], .nothing, ⟨by simp, by simp, .nil⟩, by simp [hresult]⟩
      · have hresult : given = result := by
          simpa [read, settle, ofText_escape] using h
        exact ⟨[], .escape, ⟨by simp, by simp, .nil⟩, by simp [hresult]⟩
      · obtain ⟨next, hadd, hrest⟩ := read_joined.mp h
        obtain ⟨hnew, hvalue, rfl⟩ := add_eq_ok_iff.mp hadd
        obtain ⟨spelled, hspells, htakes, rfl⟩ := ih rest.length (by simp) hrest rfl
        exact ⟨(p, value) :: spelled, .joined hspells, takes_cons.mpr ⟨hnew, hvalue, htakes⟩,
          by simp⟩
      · obtain ⟨next, hadd, hrest⟩ := (read_dashed hfollow).mp h
        obtain ⟨hnew, hvalue, rfl⟩ := add_eq_ok_iff.mp hadd
        have hshorter : rest.length < (p.dashed :: value :: rest).length := by simp +arith
        obtain ⟨spelled, hspells, htakes, rfl⟩ := ih rest.length hshorter hrest rfl
        exact ⟨(p, value) :: spelled, .dashed hfollow hspells,
          takes_cons.mpr ⟨hnew, hvalue, htakes⟩, by simp⟩

theorem read_eq_ok_iff :
    read [] none args = .ok result ↔
      Spells args result ∧ (∀ g ∈ result, g.1.accepts g.2 = true) ∧
        (result.map Prod.fst).Nodup := by
  constructor
  · intro h
    obtain ⟨spelled, hspells, ⟨-, haccepted, hdistinct⟩, rfl⟩ := exists_spells_of_read h
    exact ⟨hspells, haccepted, hdistinct⟩
  · rintro ⟨hspells, haccepted, hdistinct⟩
    exact read_of_spells hspells ⟨fun _ _ => rfl, haccepted, hdistinct⟩

end Given

/-- The flag of a parameter stands among arguments with a value. -/
def Gives (args : List String) (p : Parameter) (value : String) : Prop :=
  ∃ front back, args = front ++ p.joined value :: back ∨ args = front ++ p.dashed :: value :: back

theorem not_gives_nil {p : Parameter} {value : String} : ¬ Gives [] p value := by
  rintro ⟨front, back, h | h⟩ <;> cases front <;> cases h

theorem gives_cons {text : String} {rest : List String} {p : Parameter} {value : String} :
    Gives (text :: rest) p value ↔
      text = p.joined value ∨ (text = p.dashed ∧ rest.head? = some value) ∨
        Gives rest p value := by
  constructor
  · rintro ⟨front, back, h | h⟩
    · cases front with
      | nil => exact .inl (List.cons.inj h).1
      | cons _ front => exact .inr (.inr ⟨front, back, .inl (List.cons.inj h).2⟩)
    · cases front with
      | nil =>
          obtain ⟨htext, rfl⟩ := List.cons.inj h
          exact .inr (.inl ⟨htext, rfl⟩)
      | cons _ front => exact .inr (.inr ⟨front, back, .inr (List.cons.inj h).2⟩)
  · rintro (rfl | ⟨rfl, hhead⟩ | ⟨front, back, h⟩)
    · exact ⟨[], rest, .inl rfl⟩
    · obtain ⟨back, rfl⟩ := List.head?_eq_some_iff.mp hhead
      exact ⟨[], back, .inr rfl⟩
    · refine ⟨text :: front, back, ?_⟩
      rcases h with rfl | rfl
      · exact .inl rfl
      · exact .inr rfl

namespace Spells

variable {args rest : List String} {text : String} {given other : Given} {p : Parameter}
  {value : String}

theorem cons_cases (h : Spells (text :: rest) given) :
    (text = "--" ∧ rest = [] ∧ given = []) ∨
    (∃ p value tail, text = Parameter.joined p value ∧ given = (p, value) :: tail ∧
      Spells rest tail) ∨
    ∃ p value back tail, text = Parameter.dashed p ∧ rest = value :: back ∧ CanFollow value ∧
      given = (p, value) :: tail ∧ Spells back tail := by
  cases h with
  | escape => exact .inl ⟨rfl, rfl, rfl⟩
  | joined h => exact .inr (.inl ⟨_, _, _, rfl, rfl, h⟩)
  | dashed hfollow h => exact .inr (.inr ⟨_, _, _, _, rfl, rfl, hfollow, rfl, h⟩)

theorem unique (h : Spells args given) (h' : Spells args other) : given = other := by
  induction h generalizing other with
  | nothing => cases h'; rfl
  | escape =>
      rcases h'.cons_cases with ⟨-, -, rfl⟩ | ⟨q, w, -, heq, -⟩ | ⟨q, w, -, -, heq, -⟩
      · rfl
      · exact absurd heq (escape_ne_joined q w)
      · exact absurd heq (escape_ne_dashed q)
  | @joined p value _ _ _ ih =>
      rcases h'.cons_cases with ⟨heq, -⟩ | ⟨q, w, tail, heq, rfl, htail⟩ | ⟨q, w, -, -, heq, -⟩
      · exact absurd heq.symm (escape_ne_joined p value)
      · obtain ⟨rfl, rfl⟩ := joined_inj heq
        rw [ih htail]
      · exact absurd heq (joined_ne_dashed p q value)
  | @dashed p value _ _ _ _ ih =>
      rcases h'.cons_cases with
        ⟨heq, -⟩ | ⟨q, w, -, heq, -⟩ | ⟨q, w, back, tail, heq, hrest, -, rfl, htail⟩
      · exact absurd heq.symm (escape_ne_dashed p)
      · exact absurd heq.symm (joined_ne_dashed q p w)
      · obtain rfl := dashed_injective heq
        obtain ⟨rfl, rfl⟩ := List.cons.inj hrest
        rw [ih htail]

theorem mem_iff (h : Spells args given) : (p, value) ∈ given ↔ Gives args p value := by
  induction h with
  | nothing => simp [not_gives_nil]
  | escape =>
      have hjoined := escape_ne_joined p value
      have hdashed := escape_ne_dashed p
      simp [gives_cons, not_gives_nil, hjoined, hdashed]
  | @joined q w _ _ _ ih =>
      have hdashed := joined_ne_dashed q p w
      have hjoined : q.joined w = p.joined value ↔ (p, value) = (q, w) := by
        constructor
        · intro heq
          obtain ⟨rfl, rfl⟩ := joined_inj heq
          rfl
        · rintro ⟨⟩
          rfl
      rw [List.mem_cons, ih, gives_cons, hjoined]
      simp [hdashed]
  | @dashed q w _ _ hfollow _ ih =>
      -- The value can follow a flag, so it is no flag itself and gives nothing more.
      have hjoined := (joined_ne_dashed p q value).symm
      have hdashed : q.dashed = p.dashed ∧ w = value ↔ (p, value) = (q, w) := by
        constructor
        · rintro ⟨heq, rfl⟩
          rw [dashed_injective heq]
        · rintro ⟨⟩
          exact ⟨rfl, rfl⟩
      rw [List.mem_cons, ih, gives_cons, gives_cons, ← hdashed]
      simp [hjoined, hfollow.ne_joined p value, hfollow.ne_dashed p]

end Spells

end FeatureLabels
