import StageInterface.Json.Text
import StageInterface.Proofs.Json.Grammar

/-!
# Strings of JSON texts

A string that the grammar spells is read as the characters that it stands for,
and skipped up to its closing quote.

**Results.**
* `codeUnit?_of_spellsUnit`: four digits are read as the number that they spell.
* `joinHalves_halves`: a character above the basic plane is put together from
  its halves.
* `readText_of_spellsText`, `skipText_of_spellsText`: whole strings.
-/

namespace StageInterface
namespace Json

theorem hexDigit?_of_mem
    {c : Char}
    {n : Nat}
    (h : (c, n) ∈ hexDigits) :
    hexDigit? c = some n := by
  have hall : ∀ x ∈ hexDigits, hexDigit? x.1 = some x.2 := by decide
  exact hall (c, n) h

/-- Four digits are read as the number that they spell. -/
theorem codeUnit?_of_spellsUnit
    {a b c d : Char}
    {n : Nat}
    (h : SpellsUnit [a, b, c, d] n) :
    codeUnit? a b c d = some n := by
  cases h with
  | mk ha hb hc hd =>
      rw [codeUnit?, hexDigit?_of_mem ha, hexDigit?_of_mem hb,
        hexDigit?_of_mem hc, hexDigit?_of_mem hd]
      rfl

theorem SpellsUnit.exists_eq
    {digits : List Char}
    {n : Nat}
    (h : SpellsUnit digits n) :
    ∃ a b c d, digits = [a, b, c, d] := by
  cases h with
  | mk ha hb hc hd => exact ⟨_, _, _, _, rfl⟩

theorem shortEscape?_of_mem
    {e c : Char}
    (h : (e, c) ∈ shortEscapes) :
    shortEscape? e = some c ∧ e ≠ 'u' := by
  have hall : ∀ x ∈ shortEscapes, shortEscape? x.1 = some x.2 ∧ x.1 ≠ 'u' := by decide
  exact hall (e, c) h

section Halves

theorem isLeading_iff
    {n : Nat} :
    isLeading n = true ↔ 0xD800 ≤ n ∧ n ≤ 0xDBFF := by
  simp [isLeading]

theorem isTrailing_iff
    {n : Nat} :
    isTrailing n = true ↔ 0xDC00 ≤ n ∧ n ≤ 0xDFFF := by
  simp [isTrailing]

theorem toNat_valid
    (c : Char) :
    c.toNat < 0xD800 ∨ 0xDFFF < c.toNat ∧ c.toNat < 0x110000 :=
  c.valid

/-- No character is half of one. -/
theorem not_half_toNat
    (c : Char) :
    isLeading c.toNat = false ∧ isTrailing c.toNat = false := by
  have hvalid := toNat_valid c
  rw [Bool.eq_false_iff, Bool.eq_false_iff, ne_eq, ne_eq, isLeading_iff, isTrailing_iff]
  omega

theorem isLeading_halves
    {c : Char}
    (hc : 0x10000 ≤ c.toNat) :
    isLeading (halves c).1 = true ∧ isTrailing (halves c).1 = false := by
  have hvalid := toNat_valid c
  rw [Bool.eq_false_iff, ne_eq, isLeading_iff, isTrailing_iff, halves]
  omega

theorem isTrailing_halves
    (c : Char) :
    isTrailing (halves c).2 = true := by
  rw [isTrailing_iff, halves]
  omega

/-- A character above the basic plane is put together from its halves. -/
theorem joinHalves_halves
    {c : Char}
    (hc : 0x10000 ≤ c.toNat) :
    joinHalves (halves c).1 (halves c).2 = c := by
  have hcode : 0x10000 + ((halves c).1 - 0xD800) * 0x400 + ((halves c).2 - 0xDC00) = c.toNat := by
    simp only [halves]
    omega
  rw [joinHalves, hcode, Char.ofNat_toNat]

end Halves

/-- Reading goes on behind what has been read, up to the closing quote. -/
theorem readTextFrom_of_spellsText
    {t s : List Char}
    (h : SpellsText t s)
    (read rest : List Char) :
    readTextFrom none read (t ++ '"' :: rest) = .ok (String.ofList (read.reverse ++ s), rest) := by
  induction h generalizing read with
  | nil => simp [readTextFrom]
  | @plain c t s hquote hescape hcontrol h ih =>
      have hcontrol' : ¬ c < ' ' := Nat.not_lt.2 hcontrol
      simp [readTextFrom, hquote, hescape, hcontrol', ih]
  | @short e c t s he h ih =>
      obtain ⟨hshort, hu⟩ := shortEscape?_of_mem he
      simp [readTextFrom, hshort, hu, ih]
  | @unit c digits t s hdigits h ih =>
      obtain ⟨a, b, d, e, rfl⟩ := hdigits.exists_eq
      obtain ⟨hleading, htrailing⟩ := not_half_toNat c
      simp [readTextFrom, codeUnit?_of_spellsUnit hdigits, hleading, htrailing, ih]
  | @pair c digits digits' t s hc hdigits hdigits' h ih =>
      obtain ⟨a, b, d, e, rfl⟩ := hdigits.exists_eq
      obtain ⟨a', b', d', e', rfl⟩ := hdigits'.exists_eq
      obtain ⟨hleading, htrailing⟩ := isLeading_halves hc
      simp [readTextFrom, codeUnit?_of_spellsUnit hdigits, codeUnit?_of_spellsUnit hdigits',
        hleading, htrailing, isTrailing_halves c, joinHalves_halves hc, ih]

/-- A string is read as the characters that it stands for. -/
theorem readText_of_spellsText
    {t : List Char}
    {s : String}
    (h : SpellsText t s.toList)
    (rest : List Char) :
    readText (t ++ '"' :: rest) = .ok (s, rest) := by
  rw [readText, readTextFrom_of_spellsText h, List.reverse_nil, List.nil_append,
    String.ofList_toList]

/-- A string is skipped up to its closing quote. -/
theorem skipText_of_spellsText
    {t s : List Char}
    (h : SpellsText t s)
    (rest : List Char) :
    skipText (t ++ '"' :: rest) = .ok rest := by
  induction h with
  | nil => simp [skipText]
  | @plain c t s hquote hescape hcontrol h ih =>
      have hcontrol' : ¬ c < ' ' := Nat.not_lt.2 hcontrol
      simp [skipText, hquote, hescape, hcontrol', ih]
  | @short e c t s he h ih =>
      obtain ⟨hshort, hu⟩ := shortEscape?_of_mem he
      simp [skipText, hshort, hu, ih]
  | @unit c digits t s hdigits h ih =>
      obtain ⟨a, b, d, e, rfl⟩ := hdigits.exists_eq
      simp [skipText, codeUnit?_of_spellsUnit hdigits, ih]
  | @pair c digits digits' t s hc hdigits hdigits' h ih =>
      obtain ⟨a, b, d, e, rfl⟩ := hdigits.exists_eq
      obtain ⟨a', b', d', e', rfl⟩ := hdigits'.exists_eq
      simp [skipText, codeUnit?_of_spellsUnit hdigits, codeUnit?_of_spellsUnit hdigits', ih]

end Json
end StageInterface
