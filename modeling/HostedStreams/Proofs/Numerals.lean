import HostedStreams.Proofs.Documents
import HostedStreams.Settings
import Mathlib.Data.List.TakeWhile
import Mathlib.Data.Nat.Digits.Defs

/-! Texts that write sizes. What such a text is made of is told here as a language: blanks around a
numeral, which is digits with a plus sign in front of them or none. Sizes are read from exactly the
texts of that language whose number is positive and fits 64 bits. -/
namespace HostedStreams

namespace Text

section

variable {text core before after : List Char}

/-- The core is the text without the blanks around it: none is left at its ends, and nothing else
was taken off. -/
structure Bare (text core : List Char) : Prop where
  within : ∃ before after, text = before ++ core ++ after ∧
    (∀ c ∈ before, isBlank c = true) ∧ ∀ c ∈ after, isBlank c = true
  head : ∀ c ∈ core.head?, isBlank c = false
  last : ∀ c ∈ core.getLast?, isBlank c = false

/-- A text that starts with no blank loses none at its start. -/
theorem dropWhile_of_head (head : ∀ c ∈ core.head?, isBlank c = false) :
    core.dropWhile isBlank = core := by
  cases core with
  | nil => rfl
  | cons c core => exact List.dropWhile_cons_of_neg (by simp [head c rfl])

theorem head_dropWhile (text : List Char) :
    ∀ c ∈ (text.dropWhile isBlank).head?, isBlank c = false := by
  intro c hc
  have hHead := List.head?_dropWhile_not isBlank text
  rw [hc] at hHead
  exact hHead

/-- A text without blanks at its ends is kept as it is. -/
theorem trimmed_of_ends (head : ∀ c ∈ core.head?, isBlank c = false)
    (last : ∀ c ∈ core.getLast?, isBlank c = false) : trimmed core = core := by
  rw [trimmed, dropWhile_of_head head, dropWhile_of_head (by rwa [List.head?_reverse]),
    List.reverse_reverse]

theorem trimmed_append_left (blank : ∀ c ∈ before, isBlank c = true) (text : List Char) :
    trimmed (before ++ text) = trimmed text := by
  rw [trimmed, List.dropWhile_append_of_pos blank, trimmed]

theorem trimmed_append_right (blank : ∀ c ∈ after, isBlank c = true) (text : List Char) :
    trimmed (text ++ after) = trimmed text := by
  unfold trimmed
  rw [List.dropWhile_append]
  split
  case isTrue hNone =>
    rw [List.isEmpty_iff.1 hNone, ← List.append_nil after, List.dropWhile_append_of_pos blank]
    rfl
  case isFalse =>
    have hBlank : ∀ c ∈ after.reverse, isBlank c = true :=
      fun c hc => blank c (List.mem_reverse.1 hc)
    rw [List.reverse_append, List.dropWhile_append_of_pos hBlank]

/-- There is one such core, and trimming finds it. -/
theorem Bare.eq (h : Bare text core) : core = trimmed text := by
  obtain ⟨before, after, hText, hBefore, hAfter⟩ := h.within
  rw [hText, trimmed_append_right hAfter, trimmed_append_left hBefore,
    trimmed_of_ends h.head h.last]

/-- What trimming takes off behind. -/
theorem trimmed_append (text : List Char) :
    trimmed text ++ ((text.dropWhile isBlank).reverse.takeWhile isBlank).reverse =
      text.dropWhile isBlank := by
  rw [trimmed, ← List.reverse_append, List.takeWhile_append_dropWhile, List.reverse_reverse]

/-- To trim a text is to take the blanks off both of its ends. -/
theorem bare_trimmed (text : List Char) : Bare text (trimmed text) where
  within := by
    refine ⟨text.takeWhile isBlank, ((text.dropWhile isBlank).reverse.takeWhile isBlank).reverse,
      ?_, fun c hc => List.mem_takeWhile_imp hc, fun c hc => ?_⟩
    · rw [List.append_assoc, trimmed_append, List.takeWhile_append_dropWhile]
    · exact List.mem_takeWhile_imp (List.mem_reverse.1 hc)
  head := by
    intro c hc
    refine head_dropWhile text c ?_
    rw [← trimmed_append, List.head?_append, hc]
    rfl
  last := by
    rw [trimmed, List.getLast?_reverse]
    exact head_dropWhile _

end

/-! Numerals. -/

/-- What a digit counts where it stands. -/
def digit (c : Char) : Nat :=
  c.toNat - '0'.toNat

/-- The text is made of digits of ASCII, one or more, behind a plus sign or behind nothing, and the
number is the one they write in the decimal system. -/
def Numeral (text : List Char) (n : Nat) : Prop :=
  ∃ sign digits, (sign = [] ∨ sign = ['+']) ∧ digits ≠ [] ∧ (∀ c ∈ digits, c.isDigit = true) ∧
    text = sign ++ digits ∧ Nat.ofDigits 10 (digits.reverse.map digit) = n

section

variable {text core before after digits : List Char} {n : Nat}

/-- Digits are counted by their places. -/
theorem digitsValue_eq_ofDigits (digits : List Char) :
    digitsValue digits = Nat.ofDigits 10 (digits.reverse.map digit) := by
  rw [Nat.ofDigits_eq_foldr, List.foldr_map, List.foldr_reverse, digitsValue]
  congr 1
  funext n c
  rw [digit, Nat.mul_comm, Nat.add_comm]
  rfl

/-- The text without the plus sign in front of it, if there is one. -/
def unsigned (text : List Char) : List Char :=
  match text with
  | '+' :: rest => rest
  | _ => text

/-- A numeral is digits behind a plus sign, if any. -/
theorem numeral?_eq_some_iff :
    numeral? text = some n ↔
      (unsigned text ≠ [] ∧ (∀ c ∈ unsigned text, c.isDigit = true)) ∧
        digitsValue (unsigned text) = n := by
  have hNumeral : numeral? text = if !(unsigned text).isEmpty && (unsigned text).all Char.isDigit
      then some (digitsValue (unsigned text)) else none := rfl
  rw [hNumeral]
  simp

theorem unsigned_of_digits (each : ∀ c ∈ digits, c.isDigit = true) : unsigned digits = digits := by
  cases digits with
  | nil => rfl
  | cons c digits =>
    have hPlus : c ≠ '+' := by
      rintro rfl
      exact absurd (each '+' List.mem_cons_self) (by decide)
    unfold unsigned
    split
    · simp_all
    · rfl

/-- At most one plus sign is taken off. -/
theorem unsigned_split (text : List Char) :
    ∃ sign, (sign = [] ∨ sign = ['+']) ∧ text = sign ++ unsigned text := by
  unfold unsigned
  split
  · exact ⟨['+'], .inr rfl, rfl⟩
  · exact ⟨[], .inl rfl, rfl⟩

/-- Numerals are the texts that are read as numbers. -/
theorem numeral_iff : Numeral text n ↔ numeral? text = some n := by
  rw [numeral?_eq_some_iff, digitsValue_eq_ofDigits]
  constructor
  · rintro ⟨sign, digits, hSign, hSome, hEach, rfl, hValue⟩
    have hDigits : unsigned (sign ++ digits) = digits := by
      rcases hSign with rfl | rfl
      · exact unsigned_of_digits hEach
      · rfl
    rw [hDigits]
    exact ⟨⟨hSome, hEach⟩, hValue⟩
  · rintro ⟨⟨hSome, hEach⟩, hValue⟩
    obtain ⟨sign, hSign, hText⟩ := unsigned_split text
    exact ⟨sign, unsigned text, hSign, hSome, hEach, hText, hValue⟩

/-- The digits of a number write it, with any zeros in front of them and a plus sign or none. -/
theorem numeral_toString {sign : List Char} (plus : sign = [] ∨ sign = ['+']) (zeros n : Nat) :
    Numeral (sign ++ (List.replicate zeros '0' ++ (toString n).toList)) n := by
  have hDigits : (toString n).toList = Nat.toDigits 10 n := by simp
  rw [hDigits]
  refine ⟨sign, _, plus, ?_, ?_, rfl, ?_⟩
  · simp
  · intro c hc
    rcases List.mem_append.1 hc with hZero | hDigit
    · rw [List.eq_of_mem_replicate hZero]
      rfl
    · exact Nat.isDigit_of_mem_toDigits (by decide) (by decide) hDigit
  · rw [← digitsValue_eq_ofDigits, Json.digitsValue_eq, Nat.ofDigitChars_append,
      Nat.ofDigitChars_replicate_zero, Nat.mul_zero, Nat.ofDigitChars_ten_toDigits]

theorem isBlank_of_isDigit {c : Char} (h : c.isDigit = true) : isBlank c = false := by
  simp only [Char.isDigit, Bool.and_eq_true, decide_eq_true_eq, ge_iff_le,
    UInt32.le_iff_toNat_le] at h
  have hLow : 48 ≤ c.toNat := h.1
  have hHigh : c.toNat ≤ 57 := h.2
  simp [isBlank]
  omega

/-- No numeral has a blank in it. -/
theorem Numeral.isBlank (h : Numeral text n) : ∀ c ∈ text, isBlank c = false := by
  obtain ⟨sign, digits, hSign, -, hEach, rfl, -⟩ := h
  intro c hc
  rcases List.mem_append.1 hc with hPlus | hDigit
  · rcases hSign with rfl | rfl
    · exact absurd hPlus List.not_mem_nil
    · rw [List.mem_singleton.1 hPlus]
      rfl
  · exact isBlank_of_isDigit (hEach c hDigit)

/-- Blanks around a numeral are all that there is to take off. -/
theorem Numeral.bare (h : Numeral core n) (blank : ∀ c ∈ before ++ after, Text.isBlank c = true) :
    Bare (before ++ core ++ after) core where
  within := ⟨before, after, rfl, fun c hc => blank c (List.mem_append_left _ hc),
    fun c hc => blank c (List.mem_append_right _ hc)⟩
  head c hc := h.isBlank c (List.mem_of_head? hc)
  last c hc := h.isBlank c (List.mem_of_getLast? hc)

/-! Numerals in 64 bits. -/

/-- A digit more behind the number, as long as 64 bits have room for what comes of it. -/
def push? (n : UInt64) (c : Char) : Option UInt64 :=
  if c.isDigit = true ∧ n.toNat * 10 + digit c < UInt64.size then
    some (n * 10 + UInt64.ofNat (digit c))
  else none

/-- Reads a numeral digit by digit, and gives up at the first one that there is no room for. -/
def readWord? (text : List Char) : Option UInt64 :=
  if unsigned text = [] then none else (unsigned text).foldlM push? 0

theorem ofDigitChars_cons (c : Char) (digits : List Char) (n : Nat) :
    Nat.ofDigitChars 10 (c :: digits) n = Nat.ofDigitChars 10 digits (10 * n + digit c) :=
  Nat.ofDigitChars_cons

theorem toNat_push {w : UInt64} {c : Char} (fits : w.toNat * 10 + digit c < UInt64.size) :
    (w * 10 + UInt64.ofNat (digit c)).toNat = 10 * w.toNat + digit c := by
  have hSize : UInt64.size = 2 ^ 64 := rfl
  rw [UInt64.toNat_add, UInt64.toNat_mul, UInt64.toNat_ofNat']
  change (w.toNat * 10 % 2 ^ 64 + digit c % 2 ^ 64) % 2 ^ 64 = _
  omega

/-- Since a number never gets smaller by a digit more, there is room for all of them exactly if
there is room for what they come to. -/
theorem foldlM_push? (digits : List Char) (w : UInt64) :
    digits.foldlM push? w =
      if digits.all Char.isDigit = true ∧ Nat.ofDigitChars 10 digits w.toNat < UInt64.size then
        some (UInt64.ofNat (Nat.ofDigitChars 10 digits w.toNat))
      else none := by
  induction digits generalizing w with
  | nil => simp [UInt64.toNat_lt_size]
  | cons c digits ih =>
    have hLess := Json.le_ofDigitChars digits (10 * w.toNat + digit c)
    rw [List.foldlM_cons, ofDigitChars_cons]
    by_cases hPush : c.isDigit = true ∧ w.toNat * 10 + digit c < UInt64.size
    · rw [push?, if_pos hPush, Option.bind_eq_bind, Option.bind_some, ih, toNat_push hPush.2]
      simp only [List.all_cons, hPush.1, Bool.true_and]
    · rw [push?, if_neg hPush, Option.bind_eq_bind, Option.bind_none, if_neg]
      rintro ⟨hEach, hRoom⟩
      exact hPush ⟨List.all_eq_true.1 hEach c List.mem_cons_self, by omega⟩

/-- Words are read like numerals, as long as they fit. -/
theorem word?_eq_readWord? (text : List Char) : word? text = readWord? text := by
  by_cases hDigits : unsigned text ≠ [] ∧ ∀ c ∈ unsigned text, c.isDigit = true
  · have hNumeral := numeral?_eq_some_iff.2 ⟨hDigits, rfl⟩
    rw [word?, hNumeral, readWord?, if_neg hDigits.1, foldlM_push?, Json.digitsValue_eq]
    simp [and_iff_right hDigits.2]
  · have hNone : numeral? text = none := by
      rw [Option.eq_none_iff_forall_ne_some]
      exact fun n hNumeral => hDigits (numeral?_eq_some_iff.1 hNumeral).1
    rw [readWord?]
    split
    case isTrue hNil => simp [word?, hNone]
    case isFalse hSome =>
      rw [foldlM_push?, if_neg fun hEach => hDigits ⟨hSome, List.all_eq_true.1 hEach.1⟩]
      simp [word?, hNone]

end

end Text

namespace Settings

variable {section_ field text : String} {n : Nat}

/-- The text, without the blanks around it, is a numeral of the number. -/
def Writes (text : String) (n : Nat) : Prop :=
  ∃ core, Text.Bare text.toList core ∧ Text.Numeral core n

/-- A text writes the number that is read from what is left of it without blanks. -/
theorem writes_iff : Writes text n ↔ Text.numeral? (Text.trimmed text.toList) = some n := by
  constructor
  · rintro ⟨core, hBare, hNumeral⟩
    rw [← hBare.eq]
    exact Text.numeral_iff.1 hNumeral
  · exact fun h => ⟨_, Text.bare_trimmed _, Text.numeral_iff.2 h⟩

/-- A positive number that fits is read. -/
theorem parsePositive_of_size (h : Writes text n) (positive : 1 ≤ n) (fits : n < UInt64.size) :
    parsePositive section_ field text = .ok (UInt64.ofNat n) := by
  have hWord : Text.word? (Text.trimmed text.toList) = some (UInt64.ofNat n) := by
    rw [Text.word?, writes_iff.1 h]
    exact if_pos fits
  have hSome : UInt64.ofNat n ≠ 0 := by
    rw [Ne, ← UInt64.toNat_inj, UInt64.toNat_ofNat_of_lt' fits]
    exact Nat.pos_iff_ne_zero.1 positive
  rw [parsePositive, hWord]
  simp only [ensurePositive, if_neg hSome]
  rfl

/-- A zero is refused with a text of its own, however it was written. -/
theorem parsePositive_of_zero (h : Writes text 0) :
    parsePositive section_ field text =
      .error (.invalidField section_ field (some "0") "must be greater than zero") := by
  have hWord : Text.word? (Text.trimmed text.toList) = some 0 := by
    rw [Text.word?, writes_iff.1 h]
    rfl
  rw [parsePositive, hWord]
  rfl

/-- What is no number, or does not fit, is refused with the text as it was written. -/
theorem parsePositive_of_other (h : ∀ n, Writes text n → UInt64.size ≤ n) :
    parsePositive section_ field text =
      .error (.invalidField section_ field (some text) "must be an unsigned integer") := by
  have hWord : Text.word? (Text.trimmed text.toList) = none := by
    rw [Text.word?]
    cases hNumeral : Text.numeral? (Text.trimmed text.toList) with
    | none => rfl
    | some n => exact if_neg (Nat.not_lt.2 (h n (writes_iff.2 hNumeral)))
  rw [parsePositive, hWord]

variable (section_ field text) in
/-- What is promised of the size that is read from a text. -/
structure Understands : Prop where
  /-- It is the number that the text writes, if that is positive and fits 64 bits. -/
  size : ∀ n : Nat, (∃ w, parsePositive section_ field text = .ok w ∧ w.toNat = n) ↔
    Writes text n ∧ 1 ≤ n ∧ n ≤ 2 ^ 64 - 1
  zero : parsePositive section_ field text =
      .error (.invalidField section_ field (some "0") "must be greater than zero") ↔
    Writes text 0
  other : parsePositive section_ field text =
      .error (.invalidField section_ field (some text) "must be an unsigned integer") ↔
    ∀ n, Writes text n → 2 ^ 64 ≤ n
  /-- Numbers of 64 bits are enough to find that out: it comes to the same if the digits are taken
  one by one, up to the first one that there is no room for. -/
  stepwise : Text.word? (Text.trimmed text.toList) = Text.readWord? (Text.trimmed text.toList)

/-- The sizes, zero and all else share the texts among them, and each has an answer of its own. -/
theorem parsePositive_cases (section_ field text : String) :
    (∃ n, Writes text n ∧ 1 ≤ n ∧ n < UInt64.size ∧
      parsePositive section_ field text = .ok (UInt64.ofNat n)) ∨
    (Writes text 0 ∧ parsePositive section_ field text =
      .error (.invalidField section_ field (some "0") "must be greater than zero")) ∨
    (∀ n, Writes text n → UInt64.size ≤ n) ∧ parsePositive section_ field text =
      .error (.invalidField section_ field (some text) "must be an unsigned integer") := by
  by_cases hOther : ∀ n, Writes text n → UInt64.size ≤ n
  · exact .inr (.inr ⟨hOther, parsePositive_of_other hOther⟩)
  · push Not at hOther
    obtain ⟨n, hWrites, hFits⟩ := hOther
    rcases Nat.eq_zero_or_pos n with rfl | hPositive
    · exact .inr (.inl ⟨hWrites, parsePositive_of_zero hWrites⟩)
    · exact .inl ⟨n, hWrites, hPositive, hFits, parsePositive_of_size hWrites hPositive hFits⟩

/-- What is promised of sizes holds of every text. -/
theorem understands (section_ field text : String) : Understands section_ field text where
  size n := by
    constructor
    · rintro ⟨w, hRead, rfl⟩
      rcases parsePositive_cases section_ field text with
        ⟨n, hSize, hPositive, hFits, hAnswer⟩ | ⟨-, hAnswer⟩ | ⟨-, hAnswer⟩ <;>
        rw [hAnswer] at hRead <;> cases hRead
      rw [UInt64.toNat_ofNat_of_lt' hFits]
      exact ⟨hSize, hPositive, Nat.le_sub_one_of_lt hFits⟩
    · rintro ⟨hSize, hPositive, hFits⟩
      have hLess : n < UInt64.size := Nat.lt_of_le_pred (by decide) hFits
      exact ⟨_, parsePositive_of_size hSize hPositive hLess, UInt64.toNat_ofNat_of_lt' hLess⟩
  zero := by
    refine ⟨fun hRead => ?_, parsePositive_of_zero⟩
    rcases parsePositive_cases section_ field text with
      ⟨n, -, -, -, hAnswer⟩ | ⟨hZero, -⟩ | ⟨-, hAnswer⟩
    · rw [hAnswer] at hRead
      cases hRead
    · exact hZero
    · rw [hAnswer] at hRead
      simp at hRead
  other := by
    refine ⟨fun hRead => ?_, parsePositive_of_other⟩
    rcases parsePositive_cases section_ field text with
      ⟨n, -, -, -, hAnswer⟩ | ⟨-, hAnswer⟩ | ⟨hOther, -⟩
    · rw [hAnswer] at hRead
      cases hRead
    · rw [hAnswer] at hRead
      simp at hRead
    · exact hOther
  stepwise := Text.word?_eq_readWord? _

/-- Sizes are read from exactly the texts that write them. In particular every positive number is
read that is printed, with any zeros and a plus sign in front of its digits and any blanks around
them. -/
theorem sizes_understood (section_ field : String) :
    (∀ text, Understands section_ field text) ∧
    ∀ (n : UInt64) (zeros : Nat) {sign before after : List Char}, 1 ≤ n →
      (sign = [] ∨ sign = ['+']) → (∀ c ∈ before ++ after, Text.isBlank c = true) →
      parsePositive section_ field (String.ofList
        (before ++ (sign ++ (List.replicate zeros '0' ++ (toString n.toNat).toList)) ++ after)) =
        .ok n := by
  refine ⟨understands section_ field, fun n zeros sign before after positive plus blank => ?_⟩
  have hNumeral := Text.numeral_toString plus zeros n.toNat
  have hWrites : Writes (String.ofList
      (before ++ (sign ++ (List.replicate zeros '0' ++ (toString n.toNat).toList)) ++ after))
      n.toNat := by
    refine ⟨_, ?_, hNumeral⟩
    rw [String.toList_ofList]
    exact hNumeral.bare blank
  rw [parsePositive_of_size hWrites positive n.toNat_lt_size, UInt64.ofNat_toNat]

/-- A wide blank, a plus sign and two zeros stand in front of the digits, and a line ends behind
them. -/
theorem sizes_understood_padded :
    parsePositive "runtime" "queue_capacity" "\u3000+0016\n" = .ok 16 ∧
      Understands "runtime" "queue_capacity" "-3" := by
  have hText : String.ofList (['\u3000'] ++ (['+'] ++ (List.replicate 2 '0' ++
      (toString (16 : UInt64).toNat).toList)) ++ ['\n']) = "\u3000+0016\n" := by decide +kernel
  obtain ⟨hUnderstood, hPrinted⟩ := sizes_understood "runtime" "queue_capacity"
  refine ⟨?_, hUnderstood "-3"⟩
  rw [← hText]
  exact hPrinted 16 2 (by decide) (.inr rfl) (by simp [Text.isBlank])

end Settings

end HostedStreams
