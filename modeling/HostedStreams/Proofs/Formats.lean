import HostedStreams.Logging.Format
import HostedStreams.Proofs.Numerals
import Mathlib.Data.List.Forall2

/-! Texts that name log formats. Settings and loggers each have a reader of their own for them, and
a type of their own for what they read. The two take the same texts, and they agree on what these
mean. -/
namespace HostedStreams

namespace Text

/-- The capital letters of ASCII, each with the small one. -/
def letters : List (Char × Char) :=
  "ABCDEFGHIJKLMNOPQRSTUVWXYZ".toList.zip "abcdefghijklmnopqrstuvwxyz".toList

/-- The characters are the same, or the same letter of ASCII in its two cases. -/
def SameLetter (c d : Char) : Prop :=
  c = d ∨ (c, d) ∈ letters ∨ (d, c) ∈ letters

/-- The text, without the blanks around it, is the name but for the case of letters of ASCII. -/
def Spells (text name : String) : Prop :=
  ∃ core, Bare text.toList core ∧ List.Forall₂ SameLetter core name.toList

/-- A capital letter becomes its small one, which stays as it is. -/
theorem lowerAscii_of_letter {c d : Char} (h : (c, d) ∈ letters) :
    lowerAscii c = d ∧ lowerAscii d = d := by
  have hEach : ∀ p ∈ letters, lowerAscii p.1 = p.2 ∧ lowerAscii p.2 = p.2 := by decide
  exact hEach _ h

theorem letter_lowerAscii {c : Char} (low : 'A' ≤ c) (high : c ≤ 'Z') :
    (c, lowerAscii c) ∈ letters := by
  have hEach : ∀ k < 26, (Char.ofNat (65 + k), lowerAscii (Char.ofNat (65 + k))) ∈ letters := by
    decide
  have hLow : 65 ≤ c.toNat := UInt32.le_iff_toNat_le.1 low
  have hHigh : c.toNat ≤ 90 := UInt32.le_iff_toNat_le.1 high
  have hLetter := hEach (c.toNat - 65) (by omega)
  rwa [Nat.add_sub_cancel' hLow, Char.ofNat_toNat] at hLetter

/-- Two characters have the same small letter if they are the same but for their case. -/
theorem lowerAscii_eq_iff {c d : Char} (small : lowerAscii d = d) :
    lowerAscii c = d ↔ SameLetter c d := by
  constructor
  · rintro rfl
    by_cases hCapital : 'A' ≤ c ∧ c ≤ 'Z'
    · exact .inr (.inl (letter_lowerAscii hCapital.1 hCapital.2))
    · exact .inl (if_neg hCapital).symm
  · rintro (rfl | hLetter | hLetter)
    · exact small
    · exact (lowerAscii_of_letter hLetter).1
    · rw [(lowerAscii_of_letter hLetter).2]
      exact (lowerAscii_of_letter hLetter).1.symm.trans small

/-- A text has the small letters of a name if it is the name but for the case of letters. -/
theorem map_lowerAscii_eq_iff {core name : List Char} (small : ∀ d ∈ name, lowerAscii d = d) :
    core.map lowerAscii = name ↔ List.Forall₂ SameLetter core name := by
  induction core generalizing name with
  | nil => simp [eq_comm]
  | cons c core ih =>
    cases name with
    | nil => simp
    | cons d name =>
      obtain ⟨hFirst, hOthers⟩ := List.forall_mem_cons.1 small
      rw [List.map_cons, List.cons.injEq, List.forall₂_cons, lowerAscii_eq_iff hFirst, ih hOthers]

theorem spells_iff {text name : String} (small : ∀ d ∈ name.toList, lowerAscii d = d) :
    lower (trim text) = name ↔ Spells text name := by
  have hLower : lower (trim text) = name ↔
      (trimmed text.toList).map lowerAscii = name.toList := by
    rw [lower, trim, String.toList_ofList, ← String.toList_inj, String.toList_ofList]
  rw [hLower, map_lowerAscii_eq_iff small]
  constructor
  · exact fun h => ⟨_, bare_trimmed _, h⟩
  · rintro ⟨core, hBare, hSpelled⟩
    exact hBare.eq ▸ hSpelled

theorem isAlpha_of_sameLetter {c d : Char} (h : SameLetter c d) (letter : d.isAlpha = true) :
    c.isAlpha = true := by
  have hEach : ∀ p ∈ letters, p.1.isAlpha = true ∧ p.2.isAlpha = true := by decide
  rcases h with rfl | h | h
  · exact letter
  · exact (hEach _ h).1
  · exact (hEach _ h).2

/-- Letters of ASCII are spelled by letters of ASCII only. -/
theorem isAlpha_of_spelled {core name : List Char} (h : List.Forall₂ SameLetter core name)
    (letters : ∀ d ∈ name, d.isAlpha = true) : ∀ c ∈ core, c.isAlpha = true := by
  induction h with
  | nil => simp
  | cons same _ ih =>
    obtain ⟨hFirst, hOthers⟩ := List.forall_mem_cons.1 letters
    exact List.forall_mem_cons.2 ⟨isAlpha_of_sameLetter same hFirst, ih hOthers⟩

end Text

/-! Names of formats. -/

/-- A format of settings is read from a text that has its name in small letters. -/
theorem LogOutput.ofText?_eq_some_iff {text : String} {o : LogOutput} :
    ofText? text = some o ↔ Text.lower (Text.trim text) = o.name := by
  rw [ofText?]
  generalize Text.lower (Text.trim text) = word
  by_cases hPretty : word = "pretty"
  · subst hPretty
    cases o <;> decide
  by_cases hJson : word = "json"
  · subst hJson
    cases o <;> decide
  have hNone : all.find? (·.name == word) = none := by
    simp [all, name, Ne.symm hPretty, Ne.symm hJson]
  rw [hNone]
  cases o <;> simp [name, hPretty, hJson]

/-- A format of settings is read from the texts that spell its name. -/
theorem LogOutput.ofText_eq_ok_iff {text : String} {o : LogOutput} :
    ofText text = .ok o ↔ Text.Spells text o.name := by
  have hSmall : ∀ d ∈ o.name.toList, Text.lowerAscii d = d := by
    cases o <;> simp [name, Text.lowerAscii]
  rw [← Text.spells_iff hSmall, ← ofText?_eq_some_iff, ofText]
  cases ofText? text <;> simp

/-- A format of loggers is read from the texts that spell its name. -/
theorem LogFormat.ofText_eq_ok_iff {text : String} {f : LogFormat} :
    ofText text = .ok f ↔ Text.Spells text f.name := by
  have hSmall : ∀ d ∈ f.name.toList, Text.lowerAscii d = d := by
    cases f <;> simp [name, Text.lowerAscii]
  rw [← Text.spells_iff hSmall, ofText]
  generalize Text.lower (Text.trim text) = word
  by_cases hJson : word = "json"
  · subst hJson
    cases f <;> simp [name]
  by_cases hPretty : word = "pretty"
  · subst hPretty
    cases f <;> simp [name]
  cases f <;> simp [name, hPretty, hJson]

theorem LogOutput.ofText_name (o : LogOutput) : ofText o.name = .ok o := by
  cases o <;> rfl

theorem LogFormat.ofText_name (f : LogFormat) : ofText f.name = .ok f := by
  cases f <;> rfl

/-- Settings refuse a text by repeating it. -/
theorem LogOutput.error_of_ofText {text : String} {e : SettingsError} (h : ofText text = .error e) :
    e = .invalidLogFormat text := by
  unfold ofText at h
  split at h
  · cases h
  · exact (Except.error.inj h).symm

/-- Loggers refuse a text by repeating it. -/
theorem LogFormat.error_of_ofText {text e : String} (h : ofText text = .error e) :
    e = "invalid log format '" ++ text ++ "'" := by
  unfold ofText at h
  dsimp only at h
  split_ifs at h
  exact (Except.error.inj h).symm

theorem LogFormat.name_ofOutput (o : LogOutput) : (ofOutput (some o)).name = o.name := by
  cases o <;> rfl

/-- The two readers differ in how they call what they read. -/
theorem LogFormat.ofText_eq_ok_ofOutput {text : String} {o : LogOutput} :
    ofText text = .ok (ofOutput (some o)) ↔ LogOutput.ofText text = .ok o := by
  rw [ofText_eq_ok_iff, name_ofOutput, LogOutput.ofText_eq_ok_iff]

/-- Every format of loggers comes of one of settings. -/
theorem LogFormat.exists_ofOutput (f : LogFormat) : ∃ o, f = ofOutput (some o) := by
  cases f
  · exact ⟨.json, rfl⟩
  · exact ⟨.pretty, rfl⟩

/-- What is promised of the two readers of formats, the one of settings and the one of loggers. -/
structure FormatsAgree (text : String) : Prop where
  alike : (∃ o, LogOutput.ofText text = .ok o) ↔ ∃ f, LogFormat.ofText text = .ok f
  spelled : (∃ f, LogFormat.ofText text = .ok f) ↔
    Text.Spells text "pretty" ∨ Text.Spells text "json"
  /-- Letters that are not of ASCII are never taken for letters of a name. -/
  ascii : ∀ o core, LogOutput.ofText text = .ok o → Text.Bare text.toList core →
    ∀ c ∈ core, c.isAlpha = true
  /-- What is read has one name, a logger that the settings ask for has it too, and the name is
  read back. -/
  agree : ∀ o f, LogOutput.ofText text = .ok o → LogFormat.ofText text = .ok f →
    o.name = f.name ∧
    (∀ level, (TelemetrySettings.logging { level, format := some o }).format = f) ∧
    LogOutput.ofText o.name = .ok o ∧ LogFormat.ofText f.name = .ok f
  /-- What is refused is told as it was. -/
  refusedOutput : ∀ e, LogOutput.ofText text = .error e → e = .invalidLogFormat text
  refusedFormat : ∀ e, LogFormat.ofText text = .error e → e = "invalid log format '" ++ text ++ "'"

/-- What is promised of the two readers holds of every text. -/
theorem formats_agree (text : String) : FormatsAgree text where
  alike := by
    constructor
    · rintro ⟨o, hOutput⟩
      exact ⟨_, LogFormat.ofText_eq_ok_ofOutput.2 hOutput⟩
    · rintro ⟨f, hFormat⟩
      obtain ⟨o, rfl⟩ := f.exists_ofOutput
      exact ⟨o, LogFormat.ofText_eq_ok_ofOutput.1 hFormat⟩
  spelled := by
    simp only [LogFormat.ofText_eq_ok_iff]
    constructor
    · rintro ⟨_ | _, hSpells⟩
      · exact .inr hSpells
      · exact .inl hSpells
    · rintro (hSpells | hSpells)
      · exact ⟨.pretty, hSpells⟩
      · exact ⟨.json, hSpells⟩
  ascii o core hOutput hBare := by
    obtain ⟨word, hWord, hSpelled⟩ := LogOutput.ofText_eq_ok_iff.1 hOutput
    rw [hBare.eq, ← hWord.eq]
    exact Text.isAlpha_of_spelled hSpelled (by cases o <;> simp [LogOutput.name])
  agree o f hOutput hFormat := by
    obtain rfl : LogFormat.ofOutput (some o) = f :=
      Except.ok.inj ((LogFormat.ofText_eq_ok_ofOutput.2 hOutput).symm.trans hFormat)
    exact ⟨(LogFormat.name_ofOutput o).symm, fun _ => rfl, o.ofText_name, LogFormat.ofText_name _⟩
  refusedOutput _ := LogOutput.error_of_ofText
  refusedFormat _ := LogFormat.error_of_ofText

/-- The case of letters does not matter, but the long s is none of them. -/
example : LogOutput.ofText " JSON\t" = .ok .json ∧
    LogOutput.ofText "j\u017fon" = .error (.invalidLogFormat "j\u017fon") := by
  constructor <;> rfl

end HostedStreams
