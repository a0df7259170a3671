import Mathlib.Computability.Language
import FeatureLabels.Proofs.SeparateDomains
import FeatureLabels.Proofs.WriteSafety

/-!
The grammar of label keys. An apiserver takes a key that is made of a subdomain, a slash and a name
of at most 63 characters. Names of objects are subdomains themselves, and of such names exactly
those that fit make a key that an apiserver takes.
-/

namespace FeatureLabels

open scoped Computability

namespace Grammar

def oneOf (p : Char → Bool) : Language Char := {word | ∃ c, p c = true ∧ word = [c]}

/-- Words of inner characters that start and end with an outer one: `(outer inner*)?outer`. -/
def enclosed (outer inner : Char → Bool) : Language Char :=
  (1 + oneOf outer * (oneOf inner)∗) * oneOf outer

def isLowerAlnum (c : Char) : Bool := c.isLower || c.isDigit

def isLabelChar (c : Char) : Bool := isLowerAlnum c || c == '-'

def isNameChar (c : Char) : Bool := c.isAlphanum || c == '-' || c == '_' || c == '.'

/-- The names that objects may have, and domains: labels that are separated by dots. -/
def IsSubdomain (text : String) : Prop :=
  text.utf8ByteSize ≤ 253 ∧
    ∀ label ∈ text.toList.splitOn '.', label ∈ enclosed isLowerAlnum isLabelChar

def IsKeyName (text : String) : Prop :=
  1 ≤ text.length ∧ text.length ≤ 63 ∧ text.toList ∈ enclosed Char.isAlphanum isNameChar

/-- The label keys that an apiserver takes. -/
def IsQualifiedKey (key : String) : Prop :=
  ∃ space name, key = space ++ "/" ++ name ∧ IsSubdomain space ∧ IsKeyName name

variable {p outer inner : Char → Bool} {word : List Char} {text : String}

theorem mem_kstar_oneOf : word ∈ (oneOf p)∗ ↔ ∀ c ∈ word, p c = true := by
  rw [Language.mem_kstar]
  constructor
  · rintro ⟨words, rfl, hwords⟩ c hc
    obtain ⟨word, hword, hmem⟩ := List.mem_flatten.mp hc
    obtain ⟨d, hd, rfl⟩ := hwords word hword
    obtain rfl := List.mem_singleton.mp hmem
    exact hd
  · intro h
    refine ⟨word.map fun c => [c], by rw [← List.flatMap_def, List.flatMap_singleton'], ?_⟩
    intro single hsingle
    obtain ⟨c, hc, rfl⟩ := List.mem_map.mp hsingle
    exact ⟨c, h c hc, rfl⟩

theorem mem_enclosed_iff :
    word ∈ enclosed outer inner ↔
      ∃ front last, word = front ++ [last] ∧ outer last = true ∧
        (∀ c ∈ front.head?, outer c = true) ∧ ∀ c ∈ front.tail, inner c = true := by
  rw [enclosed, Language.mem_mul]
  constructor
  · rintro ⟨front, hfront, _, ⟨last, hlast, rfl⟩, rfl⟩
    refine ⟨front, last, rfl, hlast, ?_⟩
    rcases hfront with hfront | hfront
    · obtain rfl := (Language.mem_one front).mp hfront
      simp
    · obtain ⟨_, ⟨first, hfirst, rfl⟩, middle, hmiddle, rfl⟩ := Language.mem_mul.mp hfront
      rw [mem_kstar_oneOf] at hmiddle
      simpa [hfirst] using hmiddle
  · rintro ⟨front, last, rfl, hlast, hfirst, hmiddle⟩
    refine ⟨front, ?_, [last], ⟨last, hlast, rfl⟩, rfl⟩
    cases front with
    | nil => exact .inl rfl
    | cons first middle =>
        have hsingle : [first] ∈ oneOf outer := ⟨first, hfirst first rfl, rfl⟩
        exact .inr (Language.append_mem_mul hsingle (mem_kstar_oneOf.mpr hmiddle))

instance : Decidable (word ∈ enclosed outer inner) :=
  decidable_of_iff (word.getLast?.any outer = true ∧ word.dropLast.head?.all outer = true ∧
      word.dropLast.tail.all inner = true) <| by
    rw [mem_enclosed_iff]
    constructor
    · rcases List.eq_nil_or_concat word with rfl | ⟨front, last, rfl⟩
      · simp
      · intro h
        refine ⟨front, last, by simp, ?_⟩
        simpa [Option.all_eq_true] using h
    · rintro ⟨front, last, rfl, h⟩
      simpa [Option.all_eq_true] using h

instance : Decidable (IsSubdomain text) := inferInstanceAs (Decidable (_ ∧ _))

theorem utf8Size_of_isAlphanum {c : Char} (h : c.isAlphanum = true) : c.utf8Size = 1 := by
  rw [Char.utf8Size_eq_one_iff]
  -- Each of the three ranges ends below 128.
  rcases Bool.or_eq_true_iff.mp h with h | hdigit
  · rcases Bool.or_eq_true_iff.mp h with hupper | hlower
    · exact UInt32.le_trans (of_decide_eq_true hupper).2 (by decide)
    · exact UInt32.le_trans (of_decide_eq_true (Bool.and_eq_true_iff.mp hlower).2) (by decide)
  · exact UInt32.le_trans (of_decide_eq_true (Bool.and_eq_true_iff.mp hdigit).2) (by decide)

theorem utf8Size_of_isNameChar {c : Char} (h : isNameChar c = true) : c.utf8Size = 1 := by
  simp only [isNameChar, Bool.or_eq_true, beq_iff_eq] at h
  rcases h with ((h | rfl) | rfl) | rfl
  · exact utf8Size_of_isAlphanum h
  all_goals decide

theorem utf8ByteSize_ofList_eq_length (h : ∀ c ∈ word, c.utf8Size = 1) :
    (String.ofList word).utf8ByteSize = word.length := by
  induction word with
  | nil => rfl
  | cons c word ih =>
      obtain ⟨hc, hword⟩ := List.forall_mem_cons.mp h
      rw [String.ofList_cons, String.utf8ByteSize_append, String.utf8ByteSize_singleton, hc,
        ih hword, List.length_cons, Nat.add_comm]

theorem isAlphanum_of_isLowerAlnum {c : Char} (h : isLowerAlnum c = true) :
    c.isAlphanum = true := by
  rcases Bool.or_eq_true_iff.mp h with hlower | hdigit
  · exact Bool.or_eq_true_iff.mpr (.inl (Bool.or_eq_true_iff.mpr (.inr hlower)))
  · exact Bool.or_eq_true_iff.mpr (.inr hdigit)

theorem isNameChar_of_isAlphanum {c : Char} (h : c.isAlphanum = true) : isNameChar c = true := by
  simp [isNameChar, h]

theorem isNameChar_of_isLabelChar {c : Char} (h : isLabelChar c = true) :
    isNameChar c = true := by
  simp only [isLabelChar, Bool.or_eq_true] at h
  rcases h with h | h
  · exact isNameChar_of_isAlphanum (isAlphanum_of_isLowerAlnum h)
  · simp [isNameChar, h]

def EndsAsName (word : List Char) : Prop :=
  ∃ front last, word = front ++ [last] ∧ last.isAlphanum = true ∧
    ∀ c ∈ front, isNameChar c = true

theorem endsAsName_of_mem_enclosed (h : word ∈ enclosed isLowerAlnum isLabelChar) :
    EndsAsName word := by
  obtain ⟨front, last, rfl, hlast, hfirst, hmiddle⟩ := mem_enclosed_iff.mp h
  refine ⟨front, last, rfl, isAlphanum_of_isLowerAlnum hlast, ?_⟩
  intro c hc
  cases front with
  | nil => simp at hc
  | cons first middle =>
      rcases List.mem_cons.mp hc with rfl | hc
      · exact isNameChar_of_isAlphanum (isAlphanum_of_isLowerAlnum (hfirst c rfl))
      · exact isNameChar_of_isLabelChar (hmiddle c hc)

theorem EndsAsName.isNameChar (h : EndsAsName word) : ∀ c ∈ word, isNameChar c = true := by
  obtain ⟨front, last, rfl, hlast, hfront⟩ := h
  intro c hc
  rcases List.mem_append.mp hc with hc | hc
  · exact hfront c hc
  · obtain rfl := List.mem_singleton.mp hc
    exact isNameChar_of_isAlphanum hlast

theorem EndsAsName.append_mem_enclosed (h : EndsAsName word) {first : Char} {rest : List Char}
    (hfirst : first.isAlphanum = true) (hrest : ∀ c ∈ rest, Grammar.isNameChar c = true) :
    first :: rest ++ word ∈ enclosed Char.isAlphanum Grammar.isNameChar := by
  obtain ⟨front, last, rfl, hlast, hfront⟩ := h
  refine mem_enclosed_iff.mpr ⟨first :: rest ++ front, last, by simp, hlast, by simpa, ?_⟩
  exact List.forall_mem_append.mpr ⟨hrest, hfront⟩

theorem endsAsName_intercalate {labels : List (List Char)} (hne : labels ≠ [])
    (h : ∀ label ∈ labels, label ∈ enclosed isLowerAlnum isLabelChar) :
    EndsAsName (['.'].intercalate labels) := by
  induction labels with
  | nil => exact absurd rfl hne
  | cons label labels ih =>
      obtain ⟨hlabel, hlabels⟩ := List.forall_mem_cons.mp h
      have hends := endsAsName_of_mem_enclosed hlabel
      cases labels with
      | nil => rwa [List.intercalate_singleton]
      | cons next labels =>
          obtain ⟨front', last', heq, hlast', hfront'⟩ := ih (by simp) hlabels
          refine ⟨label ++ '.' :: front', last', ?_, hlast', ?_⟩
          · rw [List.intercalate_cons_cons, heq]
            simp
          · intro c hc
            simp only [List.mem_append, List.mem_cons] at hc
            rcases hc with hc | rfl | hc
            · exact hends.isNameChar c hc
            · decide
            · exact hfront' c hc

theorem IsSubdomain.endsAsName (h : IsSubdomain text) : EndsAsName text.toList := by
  have hends := endsAsName_intercalate (List.splitOn_ne_nil '.' text.toList) h.2
  rwa [List.intercalate_splitOn] at hends

theorem IsSubdomain.utf8ByteSize_eq (h : IsSubdomain text) : text.utf8ByteSize = text.length := by
  have hbytes := utf8ByteSize_ofList_eq_length fun c hc =>
    utf8Size_of_isNameChar (h.endsAsName.isNameChar c hc)
  rwa [String.ofList_toList, String.length_toList] at hbytes

theorem IsSubdomain.one_le_length (h : IsSubdomain text) : 1 ≤ text.length := by
  obtain ⟨front, last, hword, -⟩ := h.endsAsName
  rw [← String.length_toList, hword, List.length_append]
  exact Nat.le_add_left _ _

theorem IsSubdomain.slash_notMem (h : IsSubdomain text) : '/' ∉ text.toList :=
  fun hmem => absurd (h.endsAsName.isNameChar '/' hmem) (by decide)

end Grammar

namespace LabelSpace

open Grammar

variable {s : LabelSpace} {name : String}

theorem length_stem_append (name : String) : (nameStem ++ name).length = 6 + name.length :=
  String.length_append ..

theorem isKeyName_stem_append (hname : IsSubdomain name) (hfits : fits name = true) :
    IsKeyName (nameStem ++ name) := by
  have hbytes := hname.utf8ByteSize_eq
  have hbound := fits_iff.mp hfits
  have hlength := length_stem_append name
  refine ⟨by omega, by omega, ?_⟩
  have hstem : nameStem.toList = 'a' :: ['d', 'd', 'o', 'n', '-'] := by decide
  have hrest : ∀ c ∈ ['d', 'd', 'o', 'n', '-'], isNameChar c = true :=
    List.all_eq_true.mp (by decide)
  rw [String.toList_append, hstem]
  exact hname.endsAsName.append_mem_enclosed (by decide) hrest

theorem key_eq (s : LabelSpace) (name : String) :
    s.key name = "feature." ++ s.domain ++ "/" ++ (nameStem ++ name) := by
  rw [key, stem, String.append_assoc]

theorem eq_of_key_eq {space rest : String} (hdomain : '/' ∉ ("feature." ++ s.domain).toList)
    (hspace : '/' ∉ space.toList) (h : s.key name = space ++ "/" ++ rest) :
    rest = nameStem ++ name := by
  rw [key_eq] at h
  have hlists : ("feature." ++ s.domain).toList ++ '/' :: (nameStem ++ name).toList =
      space.toList ++ '/' :: rest.toList := by
    have hsame := congrArg String.toList h
    simpa [String.toList_append] using hsame
  have hfront := eq_of_append_cons_eq hdomain hspace hlists
  rw [hfront] at hlists
  exact (String.toList_inj.mp (List.cons.inj (List.append_cancel_left hlists)).2).symm

end LabelSpace

open LabelSpace Grammar

/-- Of the names that objects may have, exactly those that fit make a label key that an apiserver
takes. -/
theorem fits_iff_isQualifiedKey (s : LabelSpace) {name : String} (hname : IsSubdomain name)
    (hdomain : IsSubdomain ("feature." ++ s.domain)) :
    fits name = true ↔ IsQualifiedKey (s.key name) := by
  constructor
  · intro hfits
    exact ⟨"feature." ++ s.domain, nameStem ++ name, s.key_eq name, hdomain,
      isKeyName_stem_append hname hfits⟩
  · rintro ⟨space, rest, hkey, hspace, -, hlength, -⟩
    obtain rfl := eq_of_key_eq hdomain.slash_notMem hspace.slash_notMem hkey
    have hnonempty := hname.one_le_length
    rw [length_stem_append] at hlength
    rw [fits_iff, hname.utf8ByteSize_eq]
    omega

namespace Sample

def longestName : String := "a-name.of-fifty-seven-bytes.that-no-longer-name-could-fit"

end Sample

theorem fits_iff_isQualifiedKey_sample :
    IsSubdomain Sample.longestName ∧ IsSubdomain (Sample.longestName ++ "s") ∧
    IsSubdomain "feature.example.com" ∧
    IsQualifiedKey (LabelSpace.key ⟨"example.com"⟩ Sample.longestName) ∧
    ¬ IsQualifiedKey (LabelSpace.key ⟨"example.com"⟩ (Sample.longestName ++ "s")) := by
  have hname : IsSubdomain Sample.longestName := by decide +kernel
  have hlonger : IsSubdomain (Sample.longestName ++ "s") := by decide +kernel
  have hdomain : IsSubdomain "feature.example.com" := by decide +kernel
  refine ⟨hname, hlonger, hdomain, ?_, ?_⟩
  · exact (fits_iff_isQualifiedKey ⟨"example.com"⟩ hname hdomain).mp (by decide +kernel)
  · intro hkey
    have hfits := (fits_iff_isQualifiedKey ⟨"example.com"⟩ hlonger hdomain).mpr hkey
    exact absurd hfits (by decide +kernel)

end FeatureLabels
