import HostedStreams.Json.Printer
import HostedStreams.Json.Reader

/-! What is printed is read back. That holds of every value without fractions, and of every place in
a document: behind it stands nothing, or what ends an item of an array or a member of an object. -/
namespace HostedStreams

namespace Json

open Text (digitsValue)

/-! Text. -/

/-- A short escape stands for one character. -/
theorem readPieces_short {e c : Char} (short : shortEscape? e = some c) (text : List Char) :
    readPieces ('\\' :: e :: text) = (readPieces text).map fun p => (.char c :: p.1, p.2) := by
  have hUnit : e ≠ 'u' := by rintro rfl; simp [shortEscape?] at short
  cases hText : readPieces text <;> simp [readPieces, hUnit, short, hText]

/-- A long escape stands for one unit. -/
theorem readPieces_long {a b c d : Char} {u : Nat} (unit : unit? a b c d = some u)
    (text : List Char) :
    readPieces ('\\' :: 'u' :: a :: b :: c :: d :: text) =
      (readPieces text).map fun p => (.unit u :: p.1, p.2) := by
  cases hText : readPieces text <;> simp [readPieces, unit, hText]

theorem readPieces_plain {c : Char} (quote : c ≠ '"') (escape : c ≠ '\\') (printed : 0x20 ≤ c.toNat)
    (text : List Char) :
    readPieces (c :: text) = (readPieces text).map fun p => (.char c :: p.1, p.2) := by
  cases hText : readPieces text <;> simp [readPieces, escape, hText, Nat.not_lt.2 printed]

/-- Control characters are escaped by the units that are their codes. -/
theorem unit?_hexDigit : ∀ n < 0x20,
    unit? '0' '0' (hexDigit (n / 16)) (hexDigit (n % 16)) = some n := by
  decide

theorem joinPieces_unit {u : Nat} (basic : u < 0xd800) (pieces : List Piece) :
    joinPieces (.unit u :: pieces) = (joinPieces pieces).map (Char.ofNat u :: ·) := by
  rcases pieces with _ | ⟨_ | _, _⟩ <;> simp [joinPieces, basic]

/-- A character that was printed in a text is one piece of it, which stands for that character. -/
theorem readPieces_escapeChar (c : Char) (text : List Char) :
    ∃ piece, readPieces (escapeChar c ++ text) =
        (readPieces text).map (fun p => (piece :: p.1, p.2)) ∧
      ∀ pieces, joinPieces (piece :: pieces) = (joinPieces pieces).map (c :: ·) := by
  have hShort {e : Char} (short : shortEscape? e = some c) (printed : escapeChar c = ['\\', e]) :
      readPieces (escapeChar c ++ text) =
        (readPieces text).map (fun p => (.char c :: p.1, p.2)) := by
    rw [printed]
    exact readPieces_short short text
  by_cases hNamed : c ∈ ['"', '\\', '\x08', '\x0c', '\n', '\r', '\t']
  · refine ⟨.char c, ?_, fun _ => rfl⟩
    simp only [List.mem_cons, List.not_mem_nil, or_false] at hNamed
    rcases hNamed with rfl | rfl | rfl | rfl | rfl | rfl | rfl <;> exact hShort rfl rfl
  · simp only [List.mem_cons, List.not_mem_nil, or_false, not_or] at hNamed
    obtain ⟨hQuote, hEscape, hBack, hFeed, hLine, hReturn, hTab⟩ := hNamed
    simp only [escapeChar, if_neg hQuote, if_neg hEscape, if_neg hBack, if_neg hFeed, if_neg hLine,
      if_neg hReturn, if_neg hTab]
    split
    case isTrue hControl =>
      refine ⟨.unit c.toNat, readPieces_long (unit?_hexDigit _ hControl) text, fun pieces => ?_⟩
      rw [joinPieces_unit (Nat.lt_trans hControl (by decide)), Char.ofNat_toNat]
    case isFalse hControl =>
      exact ⟨.char c, readPieces_plain hQuote hEscape (Nat.not_lt.1 hControl) text, fun _ => rfl⟩

/-- What is quoted is read back piece by piece. -/
theorem readPieces_quote (s rest : List Char) :
    ∃ pieces, readPieces (s.flatMap escapeChar ++ '"' :: rest) = some (pieces, rest) ∧
      joinPieces pieces = some s := by
  induction s with
  | nil => exact ⟨[], rfl, rfl⟩
  | cons c s ih =>
    obtain ⟨pieces, hRead, hJoin⟩ := ih
    obtain ⟨piece, hPiece, hChar⟩ := readPieces_escapeChar c (s.flatMap escapeChar ++ '"' :: rest)
    refine ⟨piece :: pieces, ?_, ?_⟩
    · rw [List.flatMap_cons, List.append_assoc, hPiece, hRead]
      rfl
    · rw [hChar, hJoin]
      rfl

theorem quote_append (s : String) (rest : List Char) :
    quote s ++ rest = '"' :: (s.toList.flatMap escapeChar ++ '"' :: rest) := by
  simp [quote]

/-- A quoted text is read back as it was. -/
theorem readText_quote (s : String) (rest : List Char) :
    readText (s.toList.flatMap escapeChar ++ '"' :: rest) = some (some s, rest) := by
  obtain ⟨pieces, hRead, hJoin⟩ := readPieces_quote s.toList rest
  simp [readText, hRead, hJoin]

/-! Numbers. -/

/-- Behind the value stands nothing, or what ends an item or a member. -/
def Apart (rest : List Char) : Prop :=
  ∀ c ∈ rest.head?, c = ',' ∨ c = ']' ∨ c = '}'

theorem apart_nil : Apart [] :=
  fun _ h => absurd h (by simp)

theorem apart_cons {c : Char} (h : c = ',' ∨ c = ']' ∨ c = '}') (rest : List Char) :
    Apart (c :: rest) :=
  fun d hd => by simpa [← Option.some_inj.1 hd] using h

section

variable {rest : List Char} (apart : Apart rest)

include apart

/-- No digit follows a value. -/
theorem Apart.takeWhile_isDigit : rest.takeWhile Char.isDigit = [] := by
  cases rest with
  | nil => rfl
  | cons c rest => rcases apart c rfl with rfl | rfl | rfl <;> rfl

theorem Apart.dropWhile_isDigit : rest.dropWhile Char.isDigit = rest := by
  cases rest with
  | nil => rfl
  | cons c rest => rcases apart c rfl with rfl | rfl | rfl <;> rfl

/-- No fraction follows a value. -/
theorem Apart.readFraction : readFraction rest = some ([], rest) := by
  cases rest with
  | nil => rfl
  | cons c rest => rcases apart c rfl with rfl | rfl | rfl <;> rfl

/-- No exponent follows a value. -/
theorem Apart.readExponent : readExponent rest = some (false, [], rest) := by
  cases rest with
  | nil => rfl
  | cons c rest => rcases apart c rfl with rfl | rfl | rfl <;> rfl

end

/-- Only zero begins with a zero. -/
theorem toDigits_of_zero {n : Nat} {digits : List Char} (h : Nat.toDigits 10 n = '0' :: digits) :
    digits = [] := by
  induction n using Nat.base_induction 10 (by decide) generalizing digits with
  | single n small =>
    rw [Nat.toDigits_of_lt_base small] at h
    exact (List.cons.inj h).2.symm
  | digit n k small positive ih =>
    rw [← Nat.toDigits_append_toDigits (by decide) positive small] at h
    obtain ⟨hNil, -⟩ | ⟨front, hFront, hDigits⟩ := List.append_eq_cons_iff.1 h
    · exact absurd hNil Nat.toDigits_ne_nil
    · have hValue := Nat.ofDigitChars_ten_toDigits (n := n)
      rw [hFront, ih hFront] at hValue
      exact absurd hValue.symm (Nat.pos_iff_ne_zero.1 positive)

theorem digitsValue_eq (digits : List Char) :
    digitsValue digits = Nat.ofDigitChars 10 digits 0 := by
  simp only [digitsValue, Nat.ofDigitChars_eq_foldl, Nat.mul_comm]

/-- More digits make for no smaller number. -/
theorem le_ofDigitChars (digits : List Char) (n : Nat) : n ≤ Nat.ofDigitChars 10 digits n := by
  induction digits generalizing n with
  | nil => simp
  | cons c digits ih =>
    rw [Nat.ofDigitChars_cons]
    exact Nat.le_trans (by omega) (ih _)

/-- A number that fits 64 bits is read without loss. -/
theorem significand_of_lt {digits : List Char} {n : Nat}
    (fits : Nat.ofDigitChars 10 digits n < UInt64.size) :
    significand n digits = (Nat.ofDigitChars 10 digits n, 0) := by
  induction digits generalizing n with
  | nil => rfl
  | cons c digits ih =>
    rw [Nat.ofDigitChars_cons] at fits ⊢
    have hNext := Nat.lt_of_le_of_lt (le_ofDigitChars digits _) fits
    rw [Nat.mul_comm] at hNext fits ⊢
    rw [significand, if_pos hNext, ih fits]

/-- A number that fits 64 bits is far from what a float has no room for. -/
theorem finite_of_lt {n : Nat} (fits : n < UInt64.size) : finite n 0 = true := by
  have hScale : Text.scale n ≤ 11 := by
    rcases Nat.eq_zero_or_pos n with rfl | positive
    · decide
    · have hLog := (Nat.log2_lt (Nat.pos_iff_ne_zero.1 positive)).2 (show n < 2 ^ 64 from fits)
      unfold Text.scale
      omega
  have hUnit : Nat.pow 2 (Text.scale n) ≤ 2 ^ 11 := Nat.pow_le_pow_right (by decide) hScale
  have hNear := (Text.divideToEven_near n (Text.scale n)).1
  have hFloat : Text.nearestFloat n < 2 ^ 65 := by
    have hSize : n < 2 ^ 64 := fits
    unfold Text.nearestFloat
    omega
  have hOne : Text.nearestFloat (Nat.pow 10 (0 : Int).toNat) = 1 := by decide +kernel
  have hRoom : 2 ^ 65 ≤ Text.overflow := by decide +kernel
  have hFinite : Text.nearestFloat n * Text.nearestFloat (Nat.pow 10 (0 : Int).toNat) <
      Text.overflow := by
    rw [hOne, Nat.mul_one]
    exact Nat.lt_of_lt_of_le hFloat hRoom
  rw [finite, decide_eq_true hFinite]
  simp

theorem toDigits_eq_cons (n : Nat) (rest : List Char) :
    ∃ c text, Nat.toDigits 10 n ++ rest = c :: text ∧ c.isDigit = true := by
  cases hDigits : Nat.toDigits 10 n with
  | nil => exact absurd hDigits Nat.toDigits_ne_nil
  | cons c digits =>
    refine ⟨c, digits ++ rest, rfl, Nat.isDigit_of_mem_toDigits (b := 10) (n := n) ?_ ?_ ?_⟩
    · decide
    · decide
    · exact hDigits ▸ List.mem_cons_self

/-- The digits of a number, in front of what is apart from it. -/
theorem readWhole_toDigits {rest : List Char} (apart : Apart rest) (n : Nat) :
    readWhole (Nat.toDigits 10 n ++ rest) = some (Nat.toDigits 10 n, rest) := by
  have hDigits : ∀ c ∈ Nat.toDigits 10 n, c.isDigit = true :=
    fun c => Nat.isDigit_of_mem_toDigits (by decide) (by decide)
  have hTake : (Nat.toDigits 10 n ++ rest).takeWhile Char.isDigit = Nat.toDigits 10 n := by
    rw [List.takeWhile_append_of_pos hDigits, apart.takeWhile_isDigit, List.append_nil]
  have hDrop : (Nat.toDigits 10 n ++ rest).dropWhile Char.isDigit = rest := by
    rw [List.dropWhile_append_of_pos hDigits, apart.dropWhile_isDigit]
  unfold readWhole
  rw [hTake, hDrop]
  split
  case h_1 hNil => exact absurd hNil Nat.toDigits_ne_nil
  case h_2 digits hZero =>
    rw [hZero, toDigits_of_zero hZero]
    rfl
  case h_3 => rfl

/-- Digits of a number that fits 64 bits are in the range of floats. -/
theorem inRange_toDigits {n : Nat} (fits : n < UInt64.size) :
    inRange (Nat.toDigits 10 n) [] 0 = true := by
  have hDigits : Nat.ofDigitChars 10 (Nat.toDigits 10 n) 0 = n := Nat.ofDigitChars_ten_toDigits
  have hWhole : significand 0 (Nat.toDigits 10 n) = (n, 0) := by
    rw [significand_of_lt (by rwa [hDigits]), hDigits]
  simp only [inRange, hWhole]
  exact finite_of_lt fits

/-- A natural number of 64 bits is read back. -/
theorem readNumber_natural {rest : List Char} (apart : Apart rest) {n : Nat}
    (fits : n < UInt64.size) :
    readNumber (Nat.toDigits 10 n ++ rest) = some (.int n, rest) := by
  have hValue : digitsValue (Nat.toDigits 10 n) = n := by
    rw [digitsValue_eq, Nat.ofDigitChars_ten_toDigits]
  obtain ⟨c, text, hText, hDigit⟩ := toDigits_eq_cons n rest
  have hWhole := readWhole_toDigits apart n
  rw [hText] at hWhole ⊢
  have hSign : c ≠ '-' := by rintro rfl; exact absurd hDigit (by decide)
  have hPower : digitsValue [] = 0 := rfl
  simp [readNumber, hSign, hWhole, apart.readFraction, apart.readExponent, hPower,
    inRange_toDigits fits, hValue]

/-! Values. -/

/-- Values whose numbers are naturals of 64 bits. -/
inductive Plain : Json → Prop where
  | null : Plain .null
  | bool (b : Bool) : Plain (.bool b)
  | int {n : Nat} (fits : n < UInt64.size) : Plain (.int n)
  | str (s : String) : Plain (.str s)
  | arr {items : List Json} (each : ∀ v ∈ items, Plain v) : Plain (.arr items)
  | obj {members : List (String × Json)} (each : ∀ m ∈ members, Plain m.2) : Plain (.obj members)

/-- What was printed of the value is read as the value, wherever it stands. -/
structure Legible (v : Json) : Prop where
  head : ∃ c text, print v = c :: text ∧ isBlank c = false ∧ c ≠ ']'
  read : ∀ fuel {rest}, Apart rest → (print v).length ≤ fuel →
    readValue fuel (print v ++ rest) = some (v, rest)

theorem skipBlanks_cons {c : Char} (h : isBlank c = false) (text : List Char) :
    skipBlanks (c :: text) = c :: text := by
  simp [skipBlanks, h]

/-- No value starts with a blank. -/
theorem Legible.skipBlanks {v : Json} (h : v.Legible) (rest : List Char) :
    skipBlanks (print v ++ rest) = print v ++ rest := by
  obtain ⟨c, text, hPrint, hBlank, -⟩ := h.head
  rw [hPrint]
  exact skipBlanks_cons hBlank _

theorem printItems_cons (v : Json) (items : List Json) :
    printItems (v :: items) = print v ++ if items = [] then [] else ',' :: printItems items := by
  cases items <;> simp [printItems]

theorem printMembers_cons (m : String × Json) (members : List (String × Json)) :
    printMembers (m :: members) = quote m.1 ++ ':' :: (print m.2 ++
      if members = [] then [] else ',' :: printMembers members) := by
  cases members <;> simp [printMembers]

theorem Legible.skipBlanks_items {v : Json} (h : v.Legible) (items : List Json)
    (rest : List Char) :
    Json.skipBlanks (printItems (v :: items) ++ rest) = printItems (v :: items) ++ rest := by
  rw [printItems_cons, List.append_assoc]
  exact h.skipBlanks _

/-- The items of an array are read back, one after the other. -/
theorem readItems_print {v : Json} {items : List Json} (each : ∀ w ∈ v :: items, w.Legible)
    (fuel : Nat) (room : (printItems (v :: items)).length < fuel) (rest : List Char) :
    readItems fuel (printItems (v :: items) ++ ']' :: rest) = some (v :: items, rest) := by
  induction items generalizing v fuel with
  | nil =>
    obtain ⟨fuel, rfl⟩ := Nat.exists_eq_add_one_of_ne_zero (Nat.ne_zero_of_lt room)
    have hRead := (each v List.mem_cons_self).read fuel (apart_cons (.inr (.inl rfl)) rest)
      (Nat.le_of_lt_succ room)
    simp [printItems, readItems, hRead, skipBlanks_cons (c := ']') rfl]
  | cons w items ih =>
    obtain ⟨fuel, rfl⟩ := Nat.exists_eq_add_one_of_ne_zero (Nat.ne_zero_of_lt room)
    have hEach : ∀ u ∈ w :: items, u.Legible := fun u hu => each u (List.mem_cons_of_mem _ hu)
    rw [printItems_cons, if_neg (by simp), List.length_append, List.length_cons] at room
    have hRead := (each v List.mem_cons_self).read fuel
      (apart_cons (.inl rfl) (printItems (w :: items) ++ ']' :: rest)) (by omega)
    have hRest := ih hEach fuel (by omega)
    rw [printItems_cons, if_neg (by simp)]
    simp [readItems, hRead, skipBlanks_cons (c := ',') rfl,
      (hEach w List.mem_cons_self).skipBlanks_items, hRest]

theorem skipBlanks_members (m : String × Json) (members : List (String × Json))
    (rest : List Char) :
    skipBlanks (printMembers (m :: members) ++ rest) = printMembers (m :: members) ++ rest := by
  rw [printMembers_cons, List.append_assoc]
  exact skipBlanks_cons rfl _

/-- The members of an object are read back, one after the other. -/
theorem readMembers_print {m : String × Json} {members : List (String × Json)}
    (each : ∀ n ∈ m :: members, n.2.Legible) (fuel : Nat)
    (room : (printMembers (m :: members)).length < fuel) (rest : List Char) :
    readMembers fuel (printMembers (m :: members) ++ '}' :: rest) =
      some (some (m :: members), rest) := by
  induction members generalizing m fuel with
  | nil =>
    obtain ⟨fuel, rfl⟩ := Nat.exists_eq_add_one_of_ne_zero (Nat.ne_zero_of_lt room)
    have hValue := each m List.mem_cons_self
    rw [printMembers_cons, if_pos rfl] at room ⊢
    simp only [List.length_append, List.length_cons] at room
    have hRead := hValue.read fuel (apart_cons (.inr (.inr rfl)) rest) (by omega)
    simp [quote_append, readMembers, readText_quote, skipBlanks_cons (c := ':') rfl,
      hValue.skipBlanks, hRead, skipBlanks_cons (c := '}') rfl]
  | cons n members ih =>
    obtain ⟨fuel, rfl⟩ := Nat.exists_eq_add_one_of_ne_zero (Nat.ne_zero_of_lt room)
    have hValue := each m List.mem_cons_self
    have hEach : ∀ o ∈ n :: members, o.2.Legible := fun o ho => each o (List.mem_cons_of_mem _ ho)
    rw [printMembers_cons, if_neg (by simp)] at room ⊢
    simp only [List.length_append, List.length_cons] at room
    have hRead := hValue.read fuel
      (apart_cons (.inl rfl) (printMembers (n :: members) ++ '}' :: rest)) (by omega)
    have hRest := ih hEach fuel (by omega)
    have hBlanks := skipBlanks_members n members ('}' :: rest)
    simp [quote_append, readMembers, readText_quote, skipBlanks_cons (c := ':') rfl,
      hValue.skipBlanks, hRead, skipBlanks_cons (c := ',') rfl, hBlanks, hRest]

/-- Only numbers mind what stands behind them. -/
theorem Legible.of_closed {v : Json} {c : Char} {text : List Char} (printed : print v = c :: text)
    (head : isBlank c = false ∧ c ≠ ']')
    (read : ∀ fuel rest, (print v).length ≤ fuel + 1 →
      readValue (fuel + 1) (c :: (text ++ rest)) = some (v, rest)) : v.Legible where
  head := ⟨c, text, printed, head⟩
  read fuel rest _ room := by
    obtain ⟨fuel, rfl⟩ : ∃ n, fuel = n + 1 := by
      rw [printed, List.length_cons] at room
      exact ⟨fuel - 1, by omega⟩
    rw [printed]
    exact read fuel rest room

theorem Legible.of_natural {n : Nat} (fits : n < UInt64.size) : (Json.int n).Legible := by
  have hPrint : print (.int n) = Nat.toDigits 10 n := by simp [print, decimal]
  refine ⟨?_, fun fuel rest apart room => ?_⟩
  · obtain ⟨c, text, hText, hDigit⟩ := toDigits_eq_cons n []
    rw [List.append_nil] at hText
    refine ⟨c, text, hPrint.trans hText, ?_, ?_⟩
    · cases hBlank : isBlank c with
      | false => rfl
      | true =>
        simp only [isBlank, Bool.or_eq_true, beq_iff_eq] at hBlank
        rcases hBlank with ((rfl | rfl) | rfl) | rfl <;> exact absurd hDigit (by decide)
    · rintro rfl
      exact absurd hDigit (by decide)
  · obtain ⟨fuel, rfl⟩ : ∃ m, fuel = m + 1 := by
      have hDigits := List.length_pos_iff.2 (Nat.toDigits_ne_nil (n := n) (b := 10))
      rw [hPrint] at room
      exact ⟨fuel - 1, by omega⟩
    obtain ⟨c, text, hText, hDigit⟩ := toDigits_eq_cons n rest
    have hOther {d : Char} (other : d.isDigit = false) : c ≠ d := by
      rintro rfl
      exact absurd hDigit (by simp [other])
    have hNumber := readNumber_natural apart fits
    rw [hPrint, hText] at *
    simp [readValue, hNumber, hOther (d := 'n') rfl, hOther (d := 't') rfl, hOther (d := 'f') rfl,
      hOther (d := '"') rfl, hOther (d := '[') rfl, hOther (d := '{') rfl]

/-- Everything plain is read back, in its place. -/
theorem Plain.legible {v : Json} (plain : v.Plain) : v.Legible := by
  induction plain with
  | null => exact .of_closed rfl (by decide) fun _ _ _ => rfl
  | bool b => cases b <;> exact .of_closed rfl (by decide) fun _ _ _ => rfl
  | int fits => exact .of_natural fits
  | str s =>
    have hPrint : print (.str s) = '"' :: (s.toList.flatMap escapeChar ++ ['"']) := rfl
    refine .of_closed hPrint (by decide) fun fuel rest _ => ?_
    simp [readValue, readText_quote]
  | @arr items each ih =>
    have hPrint : print (.arr items) = '[' :: (printItems items ++ [']']) := rfl
    refine .of_closed hPrint (by decide) fun fuel rest room => ?_
    cases items with
    | nil => rfl
    | cons v items =>
      rw [hPrint, List.length_cons, List.length_append] at room
      have hItems := readItems_print ih fuel (Nat.le_of_succ_le_succ room) rest
      obtain ⟨c, text, hHead, hBlank, hClose⟩ := (ih v List.mem_cons_self).head
      rw [printItems_cons, hHead] at hItems ⊢
      simp only [List.cons_append, List.append_assoc, List.nil_append] at hItems ⊢
      simp [readValue, skipBlanks_cons hBlank, hClose, hItems]
  | @obj members each ih =>
    have hPrint : print (.obj members) = '\x7b' :: (printMembers members ++ ['\x7d']) := rfl
    refine .of_closed hPrint (by decide) fun fuel rest room => ?_
    cases members with
    | nil => rfl
    | cons m members =>
      rw [hPrint, List.length_cons, List.length_append] at room
      have hMembers := readMembers_print ih fuel (Nat.le_of_succ_le_succ room) rest
      rw [printMembers_cons, List.append_assoc, quote_append] at hMembers
      rw [printMembers_cons, List.append_assoc, List.append_assoc, quote_append]
      simp only [List.cons_append, List.append_assoc, List.nil_append] at hMembers ⊢
      simp [readValue, skipBlanks_cons (c := '"') rfl, hMembers]

/-- The document that was written of a value is read as that value. -/
theorem read?_render {v : Json} (plain : v.Plain) : read? (render v) = some v := by
  obtain ⟨c, text, hPrint, hBlank, -⟩ := plain.legible.head
  have hText : skipBlanks (render v).toList = print v := by
    rw [render, String.toList_ofList, hPrint]
    exact skipBlanks_cons hBlank text
  have hRead := plain.legible.read _ apart_nil (Nat.le_succ (print v).length)
  rw [List.append_nil] at hRead
  simp only [read?, hText, hRead]
  rfl

/-! What a reader minds who looks at a whole value. -/

theorem readableItems_iff {items : List Json} :
    readableItems items = true ↔ ∀ v ∈ items, v.readable = true := by
  induction items with
  | nil => simp [readableItems]
  | cons v items ih => simp [readableItems, ih]

theorem readableMembers_iff {members : List (String × Json)} :
    readableMembers members = true ↔ ∀ m ∈ members, m.2.readable = true := by
  induction members with
  | nil => simp [readableMembers]
  | cons m members ih => simp [readableMembers, ih]

/-- Plain values are readable. -/
theorem Plain.readable {v : Json} (plain : v.Plain) : v.readable = true := by
  induction plain with
  | null | bool | int | str => rfl
  | arr _ ih => exact readableItems_iff.2 ih
  | obj _ ih => exact readableMembers_iff.2 ih

/-- An array goes as deep as the deepest of its items. -/
theorem depthItems_le {items : List Json} {n : Nat} (each : ∀ v ∈ items, v.depth ≤ n) :
    depthItems items ≤ n := by
  induction items with
  | nil => exact Nat.zero_le n
  | cons v items ih =>
    exact Nat.max_le.2
      ⟨each v List.mem_cons_self, ih fun w hw => each w (List.mem_cons_of_mem _ hw)⟩

/-- An object goes as deep as the deepest of its members. -/
theorem depthMembers_le {members : List (String × Json)} {n : Nat}
    (each : ∀ m ∈ members, m.2.depth ≤ n) : depthMembers members ≤ n := by
  induction members with
  | nil => exact Nat.zero_le n
  | cons m members ih =>
    exact Nat.max_le.2
      ⟨each m List.mem_cons_self, ih fun o ho => each o (List.mem_cons_of_mem _ ho)⟩

end Json
end HostedStreams
