import Mathlib.Data.List.Induction
import Mathlib.Data.Nat.Digits.Defs
import FeatureLabels.Proofs.SpelledArguments

/-!
Settings as they come from the command line. Of each parameter one text counts: that of its flag,
else that of its variable, else its default. The program starts exactly if the arguments are well
spelled, no flag comes twice, and each text that counts is good for its parameter. Settings that are
read are within their bounds, so that bounding them once more changes nothing.
-/

namespace FeatureLabels

open Text

namespace Text

variable {text : String} {digits : List Char} {n : Nat}

/-- Decimal digits and the number that they stand for; the last digit counts ones. -/
def IsDecimal (digits : List Char) (n : Nat) : Prop :=
  digits ≠ [] ∧ (∀ c ∈ digits, c.isDigit = true) ∧
    n = Nat.ofDigits 10 (digits.reverse.map fun c => c.toNat - '0'.toNat)

/-- A text stands for a number: decimal digits, after a plus sign if wanted. -/
def Denotes (text : String) (n : Nat) : Prop :=
  IsDecimal text.toList n ∨ ∃ digits, text.toList = '+' :: digits ∧ IsDecimal digits n

theorem digitsValue_eq_ofDigits (digits : List Char) :
    digitsValue digits = Nat.ofDigits 10 (digits.reverse.map fun c => c.toNat - '0'.toNat) := by
  induction digits using List.reverseRecOn with
  | nil => rfl
  | append_singleton digits d ih =>
      rw [digitsValue_concat, ih, List.reverse_append, List.reverse_singleton,
        List.singleton_append, List.map_cons, Nat.ofDigits_cons, Nat.add_comm]
      rfl

theorem isDecimal_iff :
    (if digits.isEmpty || !digits.all Char.isDigit then none else some (digitsValue digits)) =
      some n ↔ IsDecimal digits n := by
  have hguard : ¬ (digits.isEmpty || !digits.all Char.isDigit) = true ↔
      digits ≠ [] ∧ ∀ c ∈ digits, c.isDigit = true := by simp
  rw [IsDecimal, Option.ite_none_left_eq_some, Option.some.injEq, digitsValue_eq_ofDigits,
    hguard, and_assoc, @eq_comm _ n]

theorem not_isDecimal_plus : ¬ IsDecimal ('+' :: digits) n := by
  rintro ⟨-, hdigits, -⟩
  exact absurd (hdigits '+' List.mem_cons_self) (by decide)

theorem number?_eq_some_iff : Parameter.number? text = some n ↔ Denotes text n := by
  rw [Parameter.number?, Denotes]
  split
  case h_1 rest hlist =>
    rw [isDecimal_iff, hlist]
    constructor
    · exact fun h => .inr ⟨rest, rfl, h⟩
    · rintro (h | ⟨digits, heq, h⟩)
      · exact absurd h not_isDecimal_plus
      · obtain ⟨-, rfl⟩ := List.cons.inj heq
        exact h
  case h_2 hplus =>
    rw [isDecimal_iff]
    constructor
    · exact .inl
    · rintro (h | ⟨digits, heq, h⟩)
      · exact h
      · exact absurd heq (hplus digits)

end Text

namespace Parameter

variable {p : Parameter} {text : String} {value value' : String ⊕ Nat}

def isNumeric : Parameter → Bool
  | workers | maxRetrySeconds | resyncSeconds => true
  | labelDomain | bindAddress => false

def Admits : Parameter → Nat → Prop
  | workers, n => 1 ≤ n ∧ n ≤ 65535
  | maxRetrySeconds, n => n ≤ 604800
  | resyncSeconds, n => 1 ≤ n ∧ n ≤ 604800
  | labelDomain, _ | bindAddress, _ => False

/-- What a text means as the value of a parameter: itself, or the number that it stands for. -/
inductive Means (p : Parameter) (text : String) : String ⊕ Nat → Prop
  | text : p.isNumeric = false → Means p text (.inl text)
  | number {n : Nat} : p.isNumeric = true → Denotes text n → p.Admits n → Means p text (.inr n)

theorem Means.unique (h : p.Means text value) (h' : p.Means text value') : value = value' := by
  cases h with
  | text htext =>
      cases h' with
      | text => rfl
      | number hnumeric => rw [htext] at hnumeric; cases hnumeric
  | number hnumeric hn =>
      cases h' with
      | text htext => rw [htext] at hnumeric; cases hnumeric
      | number _ hn' =>
          have hsame := (number?_eq_some_iff.mpr hn).symm.trans (number?_eq_some_iff.mpr hn')
          rw [Option.some.inj hsame]

theorem range?_eq_none (h : p.isNumeric = false) : p.range? = none := by
  cases p <;> first | rfl | cases h

theorem exists_range? (h : p.isNumeric = true) :
    ∃ low high, p.range? = some (low, high) ∧ ∀ n, p.Admits n ↔ low ≤ n ∧ n ≤ high := by
  cases p with
  | labelDomain | bindAddress => cases h
  | workers => exact ⟨1, 65535, rfl, fun _ => .rfl⟩
  | maxRetrySeconds => exact ⟨0, 604800, rfl, fun n => by simp [Admits]⟩
  | resyncSeconds => exact ⟨1, 604800, rfl, fun _ => .rfl⟩

theorem accepts_iff (h : p.isNumeric = true) :
    p.accepts text = true ↔ ∃ n, Denotes text n ∧ p.Admits n := by
  obtain ⟨low, high, hrange, hadmits⟩ := exists_range? h
  simp only [accepts, hrange, ← number?_eq_some_iff, hadmits]
  cases number? text <;> simp

theorem Means.exists_admits (h : p.Means text value) (hnumeric : p.isNumeric = true) :
    ∃ n, Denotes text n ∧ p.Admits n := by
  cases h with
  | text htext => rw [htext] at hnumeric; cases hnumeric
  | number _ hn hadmits => exact ⟨_, hn, hadmits⟩

theorem accepts_iff_means : p.accepts text = true ↔ ∃ value, p.Means text value := by
  cases hnumeric : p.isNumeric with
  | false =>
      have haccepts : p.accepts text = true := by rw [accepts, range?_eq_none hnumeric]
      exact ⟨fun _ => ⟨_, .text hnumeric⟩, fun _ => haccepts⟩
  | true =>
      rw [accepts_iff hnumeric]
      constructor
      · rintro ⟨n, hn, hadmits⟩
        exact ⟨_, .number hnumeric hn hadmits⟩
      · rintro ⟨value, hvalue⟩
        exact hvalue.exists_admits hnumeric

def reading (p : Parameter) (text : String) : String ⊕ Nat :=
  if p.isNumeric then .inr ((number? text).getD 0) else .inl text

theorem Means.reading_eq (h : p.Means text value) : p.reading text = value := by
  cases h with
  | text htext => rw [reading, htext]; rfl
  | number hnumeric hn => rw [reading, hnumeric, number?_eq_some_iff.mpr hn]; rfl

theorem means_reading (h : p.accepts text = true) : p.Means text (p.reading text) := by
  obtain ⟨value, hvalue⟩ := accepts_iff_means.mp h
  rwa [hvalue.reading_eq]

theorem accepts_default (p : Parameter) : p.accepts p.default = true := by
  cases p <;> decide

end Parameter

/-- The text that counts for a parameter: that of its flag if it is given, else that of its
variable if it is set, else the default. -/
inductive Effective (args : List String) (env : Parameter → Option String) (p : Parameter) :
    String → Prop
  | argument {text : String} : Gives args p text → Effective args env p text
  | variable {text : String} : (∀ other, ¬ Gives args p other) → env p = some text →
      Effective args env p text
  | default : (∀ other, ¬ Gives args p other) → env p = none → Effective args env p p.default

namespace Given

variable {given other : Given} {env : Parameter → Option String} {p : Parameter}
  {args : List String} {text : String}

def effective (given : Given) (env : Parameter → Option String) (p : Parameter) : String :=
  ((given.value? p).or (env p)).getD p.default

theorem value?_eq_some_iff (h : (given.map Prod.fst).Nodup) :
    given.value? p = some text ↔ (p, text) ∈ given := by
  rw [value?, Option.map_eq_some_iff]
  constructor
  · rintro ⟨g, hfind, rfl⟩
    obtain rfl : g.1 = p := by simpa using List.find?_some hfind
    exact List.mem_of_find?_eq_some hfind
  · intro hmem
    cases hfind : given.find? fun g => g.1 == p with
    | none => simpa using List.find?_eq_none.mp hfind _ hmem
    | some g =>
        have hkey : g.1 = p := by simpa using List.find?_some hfind
        have hg := List.mem_of_find?_eq_some hfind
        exact ⟨g, rfl, congrArg Prod.snd (List.inj_on_of_nodup_map h hg hmem hkey)⟩

theorem value?_perm (h : (given.map Prod.fst).Nodup) (hperm : given.Perm other) :
    given.value? p = other.value? p := by
  have hother : (other.map Prod.fst).Nodup := (hperm.map _).nodup_iff.mp h
  apply Option.ext
  intro text
  rw [value?_eq_some_iff h, value?_eq_some_iff hother, hperm.mem_iff]

theorem effective_perm (h : (given.map Prod.fst).Nodup) (hperm : given.Perm other) :
    given.effective env p = other.effective env p := by
  rw [effective, effective, value?_perm h hperm]

theorem effective_iff (hspells : Spells args given) (h : (given.map Prod.fst).Nodup) :
    Effective args env p text ↔ text = given.effective env p := by
  have hgives : ∀ text, Gives args p text ↔ given.value? p = some text := fun text => by
    rw [value?_eq_some_iff h, hspells.mem_iff]
  have hnone : (∀ text, ¬ Gives args p text) ↔ given.value? p = none := by
    simp only [hgives, Option.eq_none_iff_forall_ne_some, ne_eq]
  constructor
  · rintro (hgiven | ⟨habsent, henv⟩ | ⟨habsent, henv⟩)
    · rw [effective, (hgives _).mp hgiven]
      rfl
    · rw [effective, hnone.mp habsent, henv]
      rfl
    · rw [effective, hnone.mp habsent, henv]
      rfl
  · rintro rfl
    rw [effective]
    cases hvalue : given.value? p with
    | some text => exact .argument ((hgives text).mpr hvalue)
    | none =>
        cases henv : env p with
        | some text => exact .variable (hnone.mpr hvalue) henv
        | none => exact .default (hnone.mpr hvalue) henv

theorem resolve_eq_ok_iff (h : ∀ text, given.value? p = some text → p.accepts text = true) :
    p.resolve given env = .ok text ↔
      text = given.effective env p ∧ p.accepts (given.effective env p) = true := by
  cases hvalue : given.value? p with
  | some value => simp [Parameter.resolve, effective, hvalue, h value hvalue, eq_comm]
  | none =>
      cases henv : env p with
      | some value =>
          cases haccepts : p.accepts value <;>
            simp [Parameter.resolve, effective, hvalue, henv, haccepts, eq_comm]
      | none => simp [Parameter.resolve, effective, hvalue, henv, p.accepts_default, eq_comm]

end Given

namespace Arguments

variable {a : Arguments} {args : List String} {env : Parameter → Option String}

def value (a : Arguments) : Parameter → String ⊕ Nat
  | .labelDomain => .inl a.labelDomain
  | .workers => .inr a.workers
  | .bindAddress => .inl a.bindAddress
  | .maxRetrySeconds => .inr a.maxRetrySeconds
  | .resyncSeconds => .inr a.resyncSeconds

theorem value_injective {a b : Arguments} (h : ∀ p, a.value p = b.value p) : a = b := by
  cases a with
  | mk labelDomain workers bindAddress maxRetrySeconds resyncSeconds =>
      obtain rfl := Sum.inl.inj (h .labelDomain)
      obtain rfl := Sum.inr.inj (h .workers)
      obtain rfl := Sum.inl.inj (h .bindAddress)
      obtain rfl := Sum.inr.inj (h .maxRetrySeconds)
      obtain rfl := Sum.inr.inj (h .resyncSeconds)
      rfl

theorem bind_eq_ok_iff {α β : Type} {x : Except ArgumentError α}
    {f : α → Except ArgumentError β} {result : β} :
    (x >>= f) = .ok result ↔ ∃ value, x = .ok value ∧ f value = .ok result := by
  cases x with
  | error e => exact ⟨nofun, nofun⟩
  | ok value => exact ⟨fun h => ⟨value, rfl, h⟩, by rintro ⟨_, ⟨⟩, h⟩; exact h⟩

theorem read_eq_ok_iff_resolve :
    read args env = .ok a ↔ ∃ given, Given.read [] none args = .ok given ∧
      ∀ p, ∃ text, p.resolve given env = .ok text ∧ a.value p = p.reading text := by
  simp only [read, bind_eq_ok_iff]
  constructor
  · rintro ⟨given, hgiven, labelDomain, hdomain, workers, hworkers, bindAddress, haddress,
      maxRetrySeconds, hretry, resyncSeconds, hresync, ⟨⟩⟩
    refine ⟨given, hgiven, fun p => ?_⟩
    cases p with
    | labelDomain => exact ⟨_, hdomain, rfl⟩
    | workers => exact ⟨_, hworkers, rfl⟩
    | bindAddress => exact ⟨_, haddress, rfl⟩
    | maxRetrySeconds => exact ⟨_, hretry, rfl⟩
    | resyncSeconds => exact ⟨_, hresync, rfl⟩
  · rintro ⟨given, hgiven, hvalue⟩
    obtain ⟨labelDomain, hdomain, hdomainValue⟩ := hvalue .labelDomain
    obtain ⟨workers, hworkers, hworkersValue⟩ := hvalue .workers
    obtain ⟨bindAddress, haddress, haddressValue⟩ := hvalue .bindAddress
    obtain ⟨maxRetrySeconds, hretry, hretryValue⟩ := hvalue .maxRetrySeconds
    obtain ⟨resyncSeconds, hresync, hresyncValue⟩ := hvalue .resyncSeconds
    refine ⟨given, hgiven, labelDomain, hdomain, workers, hworkers, bindAddress, haddress,
      maxRetrySeconds, hretry, resyncSeconds, hresync, congrArg Except.ok ?_⟩
    apply value_injective
    intro p
    cases p with
    | labelDomain => exact hdomainValue.symm
    | workers => exact hworkersValue.symm
    | bindAddress => exact haddressValue.symm
    | maxRetrySeconds => exact hretryValue.symm
    | resyncSeconds => exact hresyncValue.symm

theorem read_eq_ok_iff_means :
    read args env = .ok a ↔ ∃ given, Spells args given ∧ (given.map Prod.fst).Nodup ∧
      ∀ p : Parameter, p.Means (given.effective env p) (a.value p) := by
  rw [read_eq_ok_iff_resolve]
  constructor
  · rintro ⟨given, hgiven, hvalue⟩
    obtain ⟨hspells, haccepted, hnodup⟩ := Given.read_eq_ok_iff.mp hgiven
    refine ⟨given, hspells, hnodup, fun p => ?_⟩
    obtain ⟨text, hresolve, hreading⟩ := hvalue p
    -- A text that is given was checked when its flag was read; only others are checked here.
    have hgiven : ∀ text, given.value? p = some text → p.accepts text = true := fun text htext =>
      haccepted (p, text) ((Given.value?_eq_some_iff hnodup).mp htext)
    obtain ⟨rfl, haccepts⟩ := (Given.resolve_eq_ok_iff hgiven).mp hresolve
    rw [hreading]
    exact Parameter.means_reading haccepts
  · rintro ⟨given, hspells, hnodup, hmeans⟩
    have haccepts : ∀ p : Parameter, p.accepts (given.effective env p) = true := fun p =>
      Parameter.accepts_iff_means.mpr ⟨_, hmeans p⟩
    have hgiven : ∀ (p : Parameter) (text : String),
        given.value? p = some text → p.accepts text = true := by
      intro p text htext
      have haccepts := haccepts p
      rwa [Given.effective, htext] at haccepts
    refine ⟨given, Given.read_eq_ok_iff.mpr ⟨hspells, fun g hg => ?_, hnodup⟩, fun p => ?_⟩
    · exact hgiven g.1 g.2 ((Given.value?_eq_some_iff hnodup).mpr hg)
    · exact ⟨_, (Given.resolve_eq_ok_iff (hgiven p)).mpr ⟨rfl, haccepts p⟩,
        (hmeans p).reading_eq.symm⟩

theorem means_of_effective (h : read args env = .ok a) {p : Parameter} {text : String}
    (heffective : Effective args env p text) : p.Means text (a.value p) := by
  obtain ⟨given, hspells, hnodup, hmeans⟩ := read_eq_ok_iff_means.mp h
  rw [(Given.effective_iff hspells hnodup).mp heffective]
  exact hmeans p

theorem admits_of_read (h : read args env = .ok a) {p : Parameter} {n : Nat}
    (hvalue : a.value p = .inr n) : p.Admits n := by
  obtain ⟨given, -, -, hmeans⟩ := read_eq_ok_iff_means.mp h
  have hnumber := hmeans p
  rw [hvalue] at hnumber
  cases hnumber with
  | number _ _ hadmits => exact hadmits

theorem read_perm {args' : List String} {given given' : Given} (hspells : Spells args given)
    (hspells' : Spells args' given') (hperm : given.Perm given') (h : read args env = .ok a) :
    read args' env = .ok a := by
  obtain ⟨_, hread, hnodup, hmeans⟩ := read_eq_ok_iff_means.mp h
  obtain rfl := hspells.unique hread
  refine read_eq_ok_iff_means.mpr ⟨given', hspells', (hperm.map _).nodup_iff.mp hnodup, ?_⟩
  intro p
  rw [← Given.effective_perm hnodup hperm]
  exact hmeans p

theorem exists_read_of_means {given : Given} (hspells : Spells args given)
    (hnodup : (given.map Prod.fst).Nodup)
    (h : ∀ p : Parameter, p.isNumeric = true →
      ∃ n, Denotes (given.effective env p) n ∧ p.Admits n) :
    ∃ a, read args env = .ok a := by
  obtain ⟨workers, hworkers, hadmitsWorkers⟩ := h .workers rfl
  obtain ⟨retry, hretry, hadmitsRetry⟩ := h .maxRetrySeconds rfl
  obtain ⟨resync, hresync, hadmitsResync⟩ := h .resyncSeconds rfl
  refine ⟨⟨given.effective env .labelDomain, workers, given.effective env .bindAddress, retry,
    resync⟩, read_eq_ok_iff_means.mpr ⟨given, hspells, hnodup, fun p => ?_⟩⟩
  cases p with
  | labelDomain | bindAddress => exact .text rfl
  | workers => exact .number rfl hworkers hadmitsWorkers
  | maxRetrySeconds => exact .number rfl hretry hadmitsRetry
  | resyncSeconds => exact .number rfl hresync hadmitsResync

theorem bounded_settings (hworkers : 1 ≤ a.workers) (hretry : a.maxRetrySeconds ≤ 604800)
    (hresync : a.resyncSeconds ≤ 604800) : a.settings.bounded = a.settings := by
  have hdelay : ∀ n, n ≤ 604800 →
      min (Duration.ofSeconds n) Settings.longestDelay = .ofSeconds n := by
    intro n hn
    have hnanoseconds : min (n * 1000000000) (604800 * 1000000000) = n * 1000000000 := by omega
    exact congrArg Duration.mk hnanoseconds
  simp only [Settings.bounded, settings, hdelay _ hretry, hdelay _ hresync,
    Nat.max_eq_left hworkers]

end Arguments

/-- Of each parameter one text counts, that of its flag, else that of its variable, else its
default, and the parameter is what this text means; so what is read is within the bounds of the
settings, and texts that mean nothing are refused. -/
theorem arguments_decideSettings :
    (∀ (args : List String) (env : Parameter → Option String) (a : Arguments),
      Arguments.read args env = .ok a →
      (1 ≤ a.workers ∧ a.workers ≤ 65535) ∧ a.maxRetrySeconds ≤ 604800 ∧
      (1 ≤ a.resyncSeconds ∧ a.resyncSeconds ≤ 604800) ∧
      a.settings.bounded =
        { domain := a.labelDomain
          workers := a.workers
          maxRetryDelay := .ofSeconds a.maxRetrySeconds
          resyncInterval := .ofSeconds a.resyncSeconds } ∧
      ∀ p : Parameter, ∃ text, (∀ other, Effective args env p other ↔ other = text) ∧
        p.Means text (a.value p)) ∧
    (∀ (args args' : List String) (given given' : Given) (env : Parameter → Option String)
        (a : Arguments), Spells args given → Spells args' given' → given.Perm given' →
      (Arguments.read args env = .ok a ↔ Arguments.read args' env = .ok a)) ∧
    (∀ (args args' : List String) (env env' : Parameter → Option String) (a a' : Arguments)
        (p : Parameter) (text : String),
      Arguments.read args env = .ok a → Arguments.read args' env' = .ok a' →
      Effective args env p text → Effective args' env' p text → a.value p = a'.value p) ∧
    (∀ (args : List String) (env : Parameter → Option String) (p : Parameter) (text : String),
      p.isNumeric = true → Effective args env p text → (¬ ∃ n, Denotes text n ∧ p.Admits n) →
      ∃ e, Arguments.read args env = .error e) ∧
    ∀ (args : List String) (env : Parameter → Option String),
      (∃ a, Arguments.read args env = .ok a) ↔
        ∃ given, Spells args given ∧ (given.map Prod.fst).Nodup ∧
          ∀ (p : Parameter) (text : String), p.isNumeric = true → Effective args env p text →
            ∃ n, Denotes text n ∧ p.Admits n := by
  refine ⟨?_, ?_, ?_, ?_, ?_⟩
  · intro args env a h
    have hworkers : 1 ≤ a.workers ∧ a.workers ≤ 65535 :=
      Arguments.admits_of_read h (p := .workers) rfl
    have hretry : a.maxRetrySeconds ≤ 604800 :=
      Arguments.admits_of_read h (p := .maxRetrySeconds) rfl
    have hresync : 1 ≤ a.resyncSeconds ∧ a.resyncSeconds ≤ 604800 :=
      Arguments.admits_of_read h (p := .resyncSeconds) rfl
    refine ⟨hworkers, hretry, hresync, Arguments.bounded_settings hworkers.1 hretry hresync.2, ?_⟩
    obtain ⟨given, hspells, hnodup, hmeans⟩ := Arguments.read_eq_ok_iff_means.mp h
    exact fun p => ⟨_, fun _ => Given.effective_iff hspells hnodup, hmeans p⟩
  · intro args args' given given' env a hspells hspells' hperm
    exact ⟨Arguments.read_perm hspells hspells' hperm,
      Arguments.read_perm hspells' hspells hperm.symm⟩
  · intro args args' env env' a a' p text h h' heffective heffective'
    exact (Arguments.means_of_effective h heffective).unique
      (Arguments.means_of_effective h' heffective')
  · intro args env p text hnumeric heffective hbad
    cases hread : Arguments.read args env with
    | error e => exact ⟨e, rfl⟩
    | ok a =>
        have hmeans := Arguments.means_of_effective hread heffective
        exact absurd (hmeans.exists_admits hnumeric) hbad
  · intro args env
    constructor
    · rintro ⟨a, h⟩
      obtain ⟨given, hspells, hnodup, -⟩ := Arguments.read_eq_ok_iff_means.mp h
      refine ⟨given, hspells, hnodup, fun p text hnumeric heffective => ?_⟩
      exact (Arguments.means_of_effective h heffective).exists_admits hnumeric
    · rintro ⟨given, hspells, hnodup, hnumbers⟩
      exact Arguments.exists_read_of_means hspells hnodup fun p hnumeric =>
        hnumbers p _ hnumeric ((Given.effective_iff hspells hnodup).mpr rfl)

namespace Sample

def arguments : List String := ["--workers", "65535", "--label-domain=-example.com", "--"]

def reordered : List String := ["--label-domain=-example.com", "--workers=65535"]

def environment : Parameter → Option String
  | .workers => some "many"
  | .maxRetrySeconds => some "+0060"
  | _ => none

def chosen : Arguments where
  labelDomain := "-example.com"
  workers := 65535
  bindAddress := "0.0.0.0:8080"
  maxRetrySeconds := 60
  resyncSeconds := 600

theorem read_arguments : Arguments.read arguments environment = .ok chosen := by decide +kernel

theorem spells_arguments :
    Spells arguments [(.workers, "65535"), (.labelDomain, "-example.com")] := by
  have harguments : arguments = [Parameter.workers.dashed, "65535",
      Parameter.labelDomain.joined "-example.com", "--"] := by decide +kernel
  rw [harguments]
  exact .dashed (fun h => absurd h (by decide)) (.joined .escape)

theorem spells_reordered :
    Spells reordered [(.labelDomain, "-example.com"), (.workers, "65535")] := by
  have harguments : reordered = [Parameter.labelDomain.joined "-example.com",
      Parameter.workers.joined "65535"] := by decide +kernel
  rw [harguments]
  exact .joined (.joined .nothing)

end Sample

theorem arguments_decideSettings_sample :
    Arguments.read Sample.arguments Sample.environment = .ok Sample.chosen ∧
    Sample.chosen.settings.bounded =
      ⟨"-example.com", 65535, .ofSeconds 60, .ofSeconds 600⟩ ∧
    Arguments.read Sample.reordered Sample.environment = .ok Sample.chosen ∧
    (∀ (args : List String) (a : Arguments),
      Arguments.read args (fun _ => none) = .ok a → Gives args .workers "65535" →
        a.workers = 65535) ∧
    (∃ e, Arguments.read ["--workers=3", "--resync-interval-seconds", "0"] Sample.environment =
      .error e) ∧
    ∃ e, Arguments.read [] Sample.environment = .error e := by
  obtain ⟨hbounds, horder, hother, hrefused, -⟩ := arguments_decideSettings
  have hbounded := (hbounds _ _ _ Sample.read_arguments).2.2.2.1
  have hworkers : Effective Sample.arguments Sample.environment .workers "65535" :=
    .argument (Sample.spells_arguments.mem_iff.mp List.mem_cons_self)
  have hnotZero : ¬ ∃ n, Denotes "0" n ∧ Parameter.resyncSeconds.Admits n := by
    rintro ⟨n, hn, hpositive, -⟩
    have hzero : Parameter.number? "0" = some 0 := by decide
    rw [number?_eq_some_iff.mpr hn, Option.some.injEq] at hzero
    omega
  have hnotMany : ¬ ∃ n, Denotes "many" n ∧ Parameter.workers.Admits n := by
    rintro ⟨n, hn, -⟩
    have hnone : Parameter.number? "many" = none := by decide
    rw [number?_eq_some_iff.mpr hn] at hnone
    cases hnone
  refine ⟨Sample.read_arguments, hbounded, ?_, ?_, ?_, ?_⟩
  · exact (horder _ _ _ _ _ _ Sample.spells_arguments Sample.spells_reordered
      (.swap _ _ _)).mp Sample.read_arguments
  · intro args a h hgives
    exact Sum.inr.inj (hother _ _ _ _ _ _ _ _ h Sample.read_arguments (.argument hgives) hworkers)
  · exact hrefused _ _ .resyncSeconds "0" rfl
      (.argument ⟨["--workers=3"], [], .inr (by decide +kernel)⟩) hnotZero
  · exact hrefused _ _ .workers "many" rfl (.variable (fun _ => not_gives_nil) rfl) hnotMany

end FeatureLabels
