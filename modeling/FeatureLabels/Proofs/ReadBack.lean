import Mathlib.Data.List.TakeWhile
import FeatureLabels.Json.Parser
import FeatureLabels.Json.Printer

namespace FeatureLabels.Json

theorem hexValue?_hexDigit : ∀ n < 16, hexValue? (hexDigit n) = some n := by decide

theorem escape_cases (c : Char) :
    (∃ e, e ≠ 'u' ∧ shortEscape? e = some c ∧ escape c = ['\\', e]) ∨
    (c.toNat < 0x20 ∧ escape c =
      ['\\', 'u', '0', '0', hexDigit (c.toNat / 16), hexDigit (c.toNat % 16)]) ∨
    (c ≠ '"' ∧ c ≠ '\\' ∧ ¬ c.toNat < 0x20 ∧ escape c = [c]) := by
  unfold escape
  repeat
    split
    · subst_vars
      exact .inl ⟨_, by decide, by decide, rfl⟩
  split
  · rename_i hcontrol
    exact .inr (.inl ⟨hcontrol, rfl⟩)
  · rename_i hquote hslash _ _ _ _ _ hcontrol
    exact .inr (.inr ⟨hquote, hslash, hcontrol, rfl⟩)

theorem length_escape_pos (c : Char) : 0 < (escape c).length := by
  rcases escape_cases c with ⟨e, -, -, h⟩ | ⟨-, h⟩ | ⟨-, -, -, h⟩ <;> simp [h]

theorem longEscape?_hexDigits {c : Char} (hc : c.toNat < 0x20) (rest : List Char) :
    longEscape? ('0' :: '0' :: hexDigit (c.toNat / 16) :: hexDigit (c.toNat % 16) :: rest) =
      some (c, rest) := by
  have hhigh : hexValue? (hexDigit (c.toNat / 16)) = some (c.toNat / 16) :=
    hexValue?_hexDigit _ (by omega)
  have hlow : hexValue? (hexDigit (c.toNat % 16)) = some (c.toNat % 16) :=
    hexValue?_hexDigit _ (by omega)
  have hzero : hexValue? '0' = some 0 := by decide
  have hquad : hexQuad?
      ('0' :: '0' :: hexDigit (c.toNat / 16) :: hexDigit (c.toNat % 16) :: rest) =
        some (c.toNat, rest) := by
    simp only [hexQuad?, hzero, hhigh, hlow, Option.bind_eq_bind, Option.bind_some]
    congr 2
    omega
  have hfirst : ¬ (0xD800 ≤ c.toNat ∧ c.toNat < 0xDC00) := by omega
  have hsecond : ¬ (0xDC00 ≤ c.toNat ∧ c.toNat < 0xE000) := by omega
  simp [longEscape?, hquad, hfirst, hsecond, Char.ofNat_toNat]

theorem readString_escape {fuel : Nat} {cs text rest : List Char}
    (h : readString fuel text = some (cs, rest)) (c : Char) :
    readString (fuel + 1) (escape c ++ text) = some (c :: cs, rest) := by
  rcases escape_cases c with
    ⟨e, hlong, hshort, hc⟩ | ⟨hcontrol, hc⟩ | ⟨hquote, hslash, hcontrol, hc⟩
  · rw [hc]
    simp [readString, hshort, h]
  · rw [hc]
    simp [readString, longEscape?_hexDigits hcontrol, h]
  · rw [hc]
    simp [readString, hquote, hslash, hcontrol, h]

theorem readString_escaped (cs rest : List Char) {fuel : Nat}
    (hfuel : (cs.flatMap escape).length < fuel) :
    readString fuel (cs.flatMap escape ++ '"' :: rest) = some (cs, rest) := by
  induction cs generalizing fuel with
  | nil =>
      obtain ⟨fuel, rfl⟩ := Nat.exists_eq_add_of_lt hfuel
      simp [readString]
  | cons c cs ih =>
      have hpos := length_escape_pos c
      rw [List.flatMap_cons, List.length_append] at hfuel
      obtain ⟨fuel, rfl⟩ : ∃ n, fuel = n + 1 := ⟨fuel - 1, by omega⟩
      rw [List.flatMap_cons, List.append_assoc]
      exact readString_escape (ih (by omega)) c

theorem readString_writeString (value : String) (rest : List Char) :
    ∃ text, writeString value ++ rest = '"' :: text ∧
      readString (text.length + 1) text = some (value.toList, rest) := by
  refine ⟨value.toList.flatMap escape ++ '"' :: rest, by simp [writeString], ?_⟩
  apply readString_escaped
  rw [List.length_append]
  omega

/-- Nothing that could belong to a number comes next. -/
def NumberEnds (text : List Char) : Prop := ∀ c ∈ text.head?, isNumberChar c = false

theorem readNumber_eq_some {text : List Char} {n : JsonNumber}
    (h : readNumber text = some (.number n, [])) :
    text.takeWhile isNumberChar = text ∧ numberOf? text = some n := by
  obtain ⟨m, hm, heq⟩ := Option.map_eq_some_iff.mp h
  simp only [Prod.mk.injEq, number.injEq, List.drop_eq_nil_iff] at heq
  obtain ⟨rfl, hlength⟩ := heq
  have hall : text.takeWhile isNumberChar = text :=
    (List.takeWhile_prefix _).eq_of_length_le hlength
  exact ⟨hall, hall ▸ hm⟩

theorem readNumber_append {text rest : List Char} {n : JsonNumber}
    (h : readNumber text = some (.number n, [])) (hrest : NumberEnds rest) :
    readNumber (text ++ rest) = some (.number n, rest) := by
  obtain ⟨hall, hn⟩ := readNumber_eq_some h
  have hnone : rest.takeWhile isNumberChar = [] := by
    cases rest with
    | nil => rfl
    | cons c rest => exact List.takeWhile_cons_of_neg (by simp [hrest c rfl])
  have hliteral : (text ++ rest).takeWhile isNumberChar = text := by
    rw [List.takeWhile_append, if_pos (by rw [hall]), hnone, List.append_nil]
  rw [readNumber, hliteral, hn]
  simp

theorem readValue_of_isNumberChar {fuel : Nat} {c : Char} {text : List Char}
    (hc : isNumberChar c = true) : readValue (fuel + 1) (c :: text) = readNumber (c :: text) := by
  rw [readValue]
  all_goals
    rintro rest heq
    obtain ⟨rfl, -⟩ := List.cons.inj heq
    exact absurd hc (by decide)

mutual

def Readable : Json → Prop
  | .number n => readNumber (writeNumber n) = some (.number n, [])
  | .array items => ReadableItems items
  | .object members => ReadableMembers members
  | _ => True

def ReadableItems : List Json → Prop
  | [] => True
  | item :: items => item.Readable ∧ ReadableItems items

def ReadableMembers : List (String × Json) → Prop
  | [] => True
  | (_, value) :: members => value.Readable ∧ ReadableMembers members

end

theorem readableMembers_iff {members : List (String × Json)} :
    ReadableMembers members ↔ ∀ m ∈ members, m.2.Readable := by
  induction members with
  | nil => simp [ReadableMembers]
  | cons m members ih => rw [ReadableMembers, ih, List.forall_mem_cons]

@[simp] theorem skipBlanks_cons {c : Char} (hc : isBlank c = false) (text : List Char) :
    skipBlanks (c :: text) = c :: text := by
  simp [skipBlanks, hc]

theorem writeNumber_head {n : JsonNumber} (h : readNumber (writeNumber n) = some (.number n, [])) :
    ∃ c text, writeNumber n = c :: text ∧ isNumberChar c = true := by
  obtain ⟨hall, hn⟩ := readNumber_eq_some h
  rcases hliteral : writeNumber n with _ | ⟨c, text⟩
  · rw [hliteral] at hn
    contradiction
  · rw [hliteral, List.takeWhile_eq_self_iff] at hall
    exact ⟨c, text, rfl, hall c List.mem_cons_self⟩

theorem isBlank_of_isNumberChar {c : Char} (hc : isNumberChar c = true) : isBlank c = false := by
  by_contra hblank
  simp only [isBlank, Bool.not_eq_false, Bool.or_eq_true, beq_iff_eq] at hblank
  rcases hblank with ((rfl | rfl) | rfl) | rfl <;> exact absurd hc (by decide)

theorem write_head {json : Json} (h : json.Readable) :
    ∃ c text, json.write = c :: text ∧ isBlank c = false ∧ c ≠ ']' := by
  cases json with
  | null => exact ⟨_, _, rfl, by decide, by decide⟩
  | bool value => cases value <;> exact ⟨_, _, rfl, by decide, by decide⟩
  | number n =>
      obtain ⟨c, text, hwrite, hc⟩ := writeNumber_head h
      refine ⟨c, text, hwrite, ?_, ?_⟩
      · exact isBlank_of_isNumberChar hc
      · rintro rfl
        exact absurd hc (by decide)
  | string value => exact ⟨_, _, rfl, by decide, by decide⟩
  | array items => exact ⟨_, _, rfl, by decide, by decide⟩
  | object members => exact ⟨_, _, rfl, by decide, by decide⟩

theorem skipBlanks_write {json : Json} (h : json.Readable) (rest : List Char) :
    skipBlanks (json.write ++ rest) = json.write ++ rest := by
  obtain ⟨c, text, hwrite, hblank, -⟩ := write_head h
  rw [hwrite, List.cons_append, skipBlanks_cons hblank]

theorem numberEnds_cons {c : Char} (hc : isNumberChar c = false) (text : List Char) :
    NumberEnds (c :: text) := by
  rintro _ ⟨⟩
  exact hc

theorem writeItems_cons_cons (item next : Json) (items : List Json) :
    writeItems (item :: next :: items) = item.write ++ ',' :: writeItems (next :: items) := rfl

theorem writeMembers_cons_cons (m next : String × Json) (members : List (String × Json)) :
    writeMembers (m :: next :: members) =
      writeString m.1 ++ ':' :: (m.2.write ++ ',' :: writeMembers (next :: members)) := rfl

theorem writeItems_head {item : Json} (h : item.Readable) (items : List Json)
    (rest : List Char) :
    ∃ c text, writeItems (item :: items) ++ rest = c :: text ∧ isBlank c = false ∧ c ≠ ']' := by
  obtain ⟨c, text, hwrite, hc⟩ := write_head h
  rcases items with _ | ⟨next, items⟩
  · exact ⟨c, text ++ ']' :: rest, by simp [writeItems, hwrite], hc⟩
  · exact ⟨c, text ++ ',' :: (writeItems (next :: items) ++ rest),
      by simp [writeItems_cons_cons, hwrite], hc⟩

theorem writeMembers_head (m : String × Json) (members : List (String × Json))
    (rest : List Char) : ∃ text, writeMembers (m :: members) ++ rest = '"' :: text := by
  rcases members with _ | ⟨next, members⟩
  · exact ⟨_, rfl⟩
  · exact ⟨_, rfl⟩

variable {fuel : Nat} {text more rest name : List Char} {value : Json} {items : List Json}
  {members : List (String × Json)}

theorem readItems_last (hvalue : readValue fuel text = some (value, ']' :: rest)) :
    readItems (fuel + 1) text = some ([value], rest) := by
  simp [readItems, hvalue, skipBlanks, isBlank]

theorem readItems_more (hvalue : readValue fuel text = some (value, ',' :: more))
    (hblanks : skipBlanks more = more) (hitems : readItems fuel more = some (items, rest)) :
    readItems (fuel + 1) text = some (value :: items, rest) := by
  simp [readItems, hvalue, skipBlanks_cons, isBlank, hblanks, hitems]

theorem readMembers_last {key : String} (hblanks : skipBlanks text = text)
    (hvalue : readValue fuel text = some (value, '}' :: rest)) :
    readMembers (fuel + 1) (writeString key ++ ':' :: text) = some ([(key, value)], rest) := by
  obtain ⟨quoted, hquoted, hname⟩ := readString_writeString key (':' :: text)
  simp [hquoted, readMembers, hname, skipBlanks_cons, isBlank, hblanks, hvalue]

theorem readMembers_more {key : String} (hblanks : skipBlanks text = text)
    (hvalue : readValue fuel text = some (value, ',' :: more))
    (hmore : skipBlanks more = more) (hmembers : readMembers fuel more = some (members, rest)) :
    readMembers (fuel + 1) (writeString key ++ ':' :: text) =
      some ((key, value) :: members, rest) := by
  obtain ⟨quoted, hquoted, hname⟩ := readString_writeString key (':' :: text)
  simp [hquoted, readMembers, hname, skipBlanks_cons, isBlank, hblanks, hvalue, hmore, hmembers]

theorem readValue_array {c : Char} (hblank : isBlank c = false) (hclose : c ≠ ']')
    (hitems : readItems fuel (c :: text) = some (items, rest)) :
    readValue (fuel + 1) ('[' :: c :: text) = some (.array items, rest) := by
  simp [readValue, skipBlanks_cons hblank, hclose, hitems]

theorem readValue_object (hmembers : readMembers fuel ('"' :: text) = some (members, rest)) :
    readValue (fuel + 1) ('{' :: '"' :: text) = some (.object members, rest) := by
  simp [readValue, skipBlanks_cons, isBlank, hmembers]

mutual

theorem readValue_write : ∀ (json : Json), json.Readable → ∀ {fuel : Nat} {rest : List Char},
    json.write.length ≤ fuel → NumberEnds rest →
      readValue fuel (json.write ++ rest) = some (json, rest)
  | .null, _, fuel + 1, rest, _, _ => by simp [write, readValue]
  | .bool true, _, fuel + 1, rest, _, _ => by simp [write, readValue]
  | .bool false, _, fuel + 1, rest, _, _ => by simp [write, readValue]
  | .number n, h, fuel + 1, rest, _, hrest => by
      obtain ⟨c, text, hwrite, hc⟩ := writeNumber_head h
      rw [write, hwrite, List.cons_append, readValue_of_isNumberChar hc, ← List.cons_append,
        ← hwrite]
      exact readNumber_append h hrest
  | .string value, _, fuel + 1, rest, _, _ => by
      obtain ⟨text, hwrite, hread⟩ := readString_writeString value rest
      simp [write, hwrite, readValue, hread]
  | .array [], _, fuel + 1, rest, _, _ => by
      simp [write, writeItems, readValue, skipBlanks, isBlank]
  | .array (item :: items), h, fuel + 1, rest, hfuel, _ => by
      have hitems : readItems fuel (writeItems (item :: items) ++ rest) =
          some (item :: items, rest) :=
        readItems_write (item :: items) h (by simp) (Nat.le_of_succ_le_succ hfuel)
      obtain ⟨c, text, hwrite, hblank, hclose⟩ := writeItems_head h.1 items rest
      rw [write, List.cons_append, hwrite]
      rw [hwrite] at hitems
      exact readValue_array hblank hclose hitems
  | .object [], _, fuel + 1, rest, _, _ => by
      simp [write, writeMembers, readValue, skipBlanks, isBlank]
  | .object (m :: members), h, fuel + 1, rest, hfuel, _ => by
      have hmembers : readMembers fuel (writeMembers (m :: members) ++ rest) =
          some (m :: members, rest) :=
        readMembers_write (m :: members) h (by simp) (Nat.le_of_succ_le_succ hfuel)
      obtain ⟨text, hwrite⟩ := writeMembers_head m members rest
      rw [write, List.cons_append, hwrite]
      rw [hwrite] at hmembers
      exact readValue_object hmembers
  | json, h, 0, rest, hfuel, _ => by
      obtain ⟨c, text, hwrite, -⟩ := write_head h
      simp [hwrite] at hfuel

theorem readItems_write : ∀ (items : List Json), ReadableItems items → items ≠ [] →
    ∀ {fuel : Nat} {rest : List Char}, (writeItems items).length ≤ fuel →
      readItems fuel (writeItems items ++ rest) = some (items, rest)
  | [], _, hne, _, _, _ => by contradiction
  | [item], h, _, fuel + 1, rest, hfuel => by
      rw [writeItems, List.length_append] at hfuel
      rw [writeItems, List.append_assoc]
      exact readItems_last
        (readValue_write item h.1 (Nat.le_of_succ_le_succ hfuel) (numberEnds_cons (by decide) rest))
  | item :: next :: items, h, _, fuel + 1, rest, hfuel => by
      rw [writeItems_cons_cons, List.length_append, List.length_cons] at hfuel
      rw [writeItems_cons_cons, List.append_assoc, List.cons_append]
      obtain ⟨c, text, hwrite, hblank, -⟩ := writeItems_head h.2.1 items rest
      refine readItems_more
        (readValue_write item h.1 (by omega) (numberEnds_cons (by decide) _)) ?_
        (readItems_write (next :: items) h.2 (by simp) (by omega))
      rw [hwrite, skipBlanks_cons hblank]
  | item :: items, h, _, 0, rest, hfuel => by
      obtain ⟨c, text, hwrite, -⟩ := writeItems_head h.1 items []
      rw [List.append_nil] at hwrite
      simp [hwrite] at hfuel

theorem readMembers_write : ∀ (members : List (String × Json)), ReadableMembers members →
    members ≠ [] → ∀ {fuel : Nat} {rest : List Char}, (writeMembers members).length ≤ fuel →
      readMembers fuel (writeMembers members ++ rest) = some (members, rest)
  | [], _, hne, _, _, _ => by contradiction
  | [(key, value)], h, _, fuel + 1, rest, hfuel => by
      simp only [writeMembers, List.length_append, List.length_cons] at hfuel
      simp only [writeMembers, List.append_assoc, List.cons_append]
      exact readMembers_last (skipBlanks_write h.1 _)
        (readValue_write value h.1 (by omega) (numberEnds_cons (by decide) rest))
  | (key, value) :: next :: members, h, _, fuel + 1, rest, hfuel => by
      simp only [writeMembers_cons_cons, List.length_append, List.length_cons] at hfuel
      simp only [writeMembers_cons_cons, List.append_assoc, List.cons_append]
      obtain ⟨text, hwrite⟩ := writeMembers_head next members rest
      refine readMembers_more (skipBlanks_write h.1 _)
        (readValue_write value h.1 (by omega) (numberEnds_cons (by decide) _)) ?_
        (readMembers_write (next :: members) h.2 (by simp) (by omega))
      rw [hwrite, skipBlanks_cons (by decide)]
  | m :: members, _, _, 0, rest, hfuel => by
      obtain ⟨text, hwrite⟩ := writeMembers_head m members []
      rw [List.append_nil] at hwrite
      simp [hwrite] at hfuel

end

/-- The compact text of a document is read as this document. -/
theorem ofText?_text {json : Json} (h : json.Readable) : ofText? json.text = some json := by
  have hblanks := skipBlanks_write h []
  have hread : readValue (2 * json.write.length + 2) (json.write ++ []) = some (json, []) :=
    readValue_write json h (by omega) (by simp [NumberEnds])
  rw [List.append_nil] at hblanks hread
  rw [ofText?, text, String.toList_ofList, read?, hblanks, hread]
  rfl

example : Readable (.array [.number (.integer (-12)), .number (.real "1.5e3")]) :=
  ⟨rfl, rfl, trivial⟩

end FeatureLabels.Json
