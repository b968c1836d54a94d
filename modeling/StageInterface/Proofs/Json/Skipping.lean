import StageInterface.Json.Skip
import StageInterface.Proofs.Json.Numbers
import StageInterface.Proofs.Json.Strings

/-!
# Skipped values of JSON texts

A value that the grammar spells is skipped, whatever it is and however deep it
nests, up to what follows it.  Following it takes a level for each bracket, each comma
and each value, and no more than two of them for each character of the text: so
the bound on levels is never met.

**Results.**
* `skipBlanks_append`: blanks in front of a text.
* `Spells.exists_begins`: how the text of a value begins.
* `SkipsParts.rest_nil`, `SkipsParts.rest_cons`: what is skipped of a sequence
  or an object with one part more.
* `isSkipped_of_spells`: every phrase is skipped, by induction on how it is
  spelled.
* `skipValue_of_spells`: so every element is.
-/

namespace StageInterface
namespace Json

section Blanks

variable {b s : List Char}

theorem isBlank_iff
    {c : Char} :
    isBlank c = true ↔ c ∈ [' ', '\t', '\n', '\r'] := by
  simp [isBlank, or_assoc]

/-- Blanks in front of a text are skipped. -/
theorem skipBlanks_append
    (hb : IsBlanks b)
    (s : List Char) :
    skipBlanks (b ++ s) = skipBlanks s :=
  List.dropWhile_append_of_pos (fun c hc => isBlank_iff.2 (hb c hc))

theorem skipBlanks_cons
    {c : Char}
    (hc : isBlank c = false)
    (s : List Char) :
    skipBlanks (c :: s) = c :: s :=
  List.dropWhile_cons_of_neg (by simp [hc])

/-- Nothing is left to skip. -/
theorem skipBlanks_skipBlanks
    (s : List Char) :
    skipBlanks (skipBlanks s) = skipBlanks s :=
  List.dropWhile_idempotent isBlank s

/-- Blanks do not go on with a number. -/
theorem stops_of_isBlanks
    (hb : IsBlanks b)
    (hs : Text.Stops isNumberChar s) :
    Text.Stops isNumberChar (b ++ s) := by
  cases b with
  | nil => exact hs
  | cons c b =>
      have hc := hb c List.mem_cons_self
      simp only [List.mem_cons, List.not_mem_nil, or_false] at hc
      rcases hc with rfl | rfl | rfl | rfl <;> exact Text.stops_cons (by decide) _

end Blanks

section Beginnings

variable {t : List Char}
variable {v : Value}

theorem not_isBlank_of_isDigit
    {c : Char}
    (hc : c = '-' ∨ c.isDigit = true) :
    isBlank c = false := by
  rw [Bool.eq_false_iff, ne_eq, isBlank_iff]
  intro hblank
  simp only [List.mem_cons, List.not_mem_nil, or_false] at hblank
  rcases hblank with rfl | rfl | rfl | rfl <;> simp at hc

/-- A number begins with a sign or a digit. -/
theorem IsNumber.exists_cons
    (h : IsNumber t) :
    ∃ c s, t = c :: s ∧ (c = '-' ∨ c.isDigit = true) := by
  cases h with
  | @mk sign fraction exponent hsign n hfraction hexponent =>
      rcases List.mem_pair.1 hsign with rfl | rfl
      · obtain ⟨d, l, hl, hd⟩ := (isDigits_toDigits n).exists_cons
        exact ⟨d, l ++ fraction ++ exponent, by simp [hl], Or.inr hd⟩
      · exact ⟨'-', _, rfl, Or.inl rfl⟩

/-- How the text of a value begins. -/
inductive Value.Begins :
    Value → Char → Prop
  | null :
      Begins .null 'n'
  | truth :
      Begins (.boolean true) 't'
  | falsity :
      Begins (.boolean false) 'f'
  | number
      {literal : List Char}
      {c : Char}
      (hc : c = '-' ∨ c.isDigit = true) :
      Begins (.number literal) c
  | text
      {s : String} :
      Begins (.text s) '"'
  | sequence
      {l : List Value} :
      Begins (.sequence l) '['
  | object
      {l : List (String × Value)} :
      Begins (.object l) '\x7b'

theorem Spells.exists_begins
    (h : Spells (.value v) t) :
    ∃ c s, t = c :: s ∧ v.Begins c := by
  cases h with
  | null => exact ⟨_, _, rfl, .null⟩
  | boolean b =>
      cases b with
      | true => exact ⟨_, _, rfl, .truth⟩
      | false => exact ⟨_, _, rfl, .falsity⟩
  | number h =>
      obtain ⟨c, s, hs, hc⟩ := h.exists_cons
      exact ⟨c, s, hs, .number hc⟩
  | text => exact ⟨_, _, rfl, .text⟩
  | emptySequence | sequence => exact ⟨_, _, rfl, .sequence⟩
  | emptyObject | object => exact ⟨_, _, rfl, .object⟩

/-- A value begins with no blank. -/
theorem Value.Begins.not_isBlank
    {c : Char}
    (h : v.Begins c) :
    isBlank c = false := by
  cases h with
  | number hc => exact not_isBlank_of_isDigit hc
  | null | truth | falsity | text | sequence | object => decide

theorem Value.Begins.ne_bracket
    {c : Char}
    (h : v.Begins c) :
    c ≠ ']' := by
  rintro rfl
  cases h with
  | number hc => simp at hc

theorem Spells.skipBlanks_element
    (h : Spells (.element v) t)
    (r : List Char) :
    ∃ c s, skipBlanks (t ++ r) = c :: s ∧ c ≠ ']' := by
  cases h with
  | element hb h hb' =>
      obtain ⟨c, s, rfl, hc⟩ := h.exists_begins
      rw [List.append_assoc, List.append_assoc, skipBlanks_append hb, List.cons_append,
        skipBlanks_cons hc.not_isBlank]
      exact ⟨c, _, rfl, hc.ne_bracket⟩

theorem Spells.skipBlanks_field
    {key : String}
    (h : Spells (.field key v) t)
    (r : List Char) :
    ∃ s, skipBlanks (t ++ r) = '"' :: s := by
  cases h with
  | field hb hk hb' h =>
      simp only [List.append_assoc, List.cons_append]
      rw [skipBlanks_append hb]
      exact ⟨_, rfl⟩

end Beginnings

section Skipping

theorem readWord_append
    (word r : List Char) :
    readWord word (word ++ r) = .ok r := by
  induction word with
  | nil => rfl
  | cons c word ih => rw [List.cons_append, readWord, if_pos rfl, ih]

theorem skipValueWithin_skipBlanks
    (room : Nat)
    (s : List Char) :
    skipValueWithin room (skipBlanks s) = skipValueWithin room s := by
  cases room with
  | zero => rw [skipValueWithin, skipValueWithin]
  | succ room => rw [skipValueWithin, skipValueWithin, skipBlanks_skipBlanks]

theorem skipElementsWithin_skipBlanks
    (room : Nat)
    (s : List Char) :
    skipElementsWithin room (skipBlanks s) = skipElementsWithin room s := by
  cases room with
  | zero => rw [skipElementsWithin, skipElementsWithin]
  | succ room => rw [skipElementsWithin, skipElementsWithin, skipValueWithin_skipBlanks]

theorem skipFieldsWithin_skipBlanks
    (room : Nat)
    (s : List Char) :
    skipFieldsWithin room (skipBlanks s) = skipFieldsWithin room s := by
  cases room with
  | zero => rw [skipFieldsWithin, skipFieldsWithin]
  | succ room => rw [skipFieldsWithin, skipFieldsWithin, skipKey, skipKey, skipBlanks_skipBlanks]

theorem skipValueWithin_bracket
    (room : Nat)
    (s : List Char) :
    skipValueWithin (room + 1) ('[' :: s) =
      match skipBlanks s with
      | ']' :: s => .ok s
      | [] => .error .truncated
      | s => skipElementsWithin room s := by
  rw [skipValueWithin, skipBlanks_cons (by decide)]
  rfl

theorem skipValueWithin_brace
    (room : Nat)
    (s : List Char) :
    skipValueWithin (room + 1) ('\x7b' :: s) =
      match skipBlanks s with
      | '\x7d' :: s => .ok s
      | [] => .error .truncated
      | s => skipFieldsWithin room s := by
  rw [skipValueWithin, skipBlanks_cons (by decide)]
  rfl

/-- A sequence with an element in it is skipped by its elements. -/
theorem skipValueWithin_sequence
    {v : Value}
    {t : List Char}
    (h : Spells (.element v) t)
    (room : Nat)
    (r : List Char) :
    skipValueWithin (room + 1) ('[' :: (t ++ r)) = skipElementsWithin room (t ++ r) := by
  obtain ⟨c, s, hs, hc⟩ := h.skipBlanks_element r
  rw [← skipElementsWithin_skipBlanks, hs, skipValueWithin_bracket, hs]
  split
  next heq =>
    obtain ⟨rfl, -⟩ := List.cons.inj heq
    exact absurd rfl hc
  next heq => simp at heq
  · rfl

/-- An object with a field in it is skipped by its fields. -/
theorem skipValueWithin_object
    {key : String}
    {v : Value}
    {t : List Char}
    (h : Spells (.field key v) t)
    (room : Nat)
    (r : List Char) :
    skipValueWithin (room + 1) ('\x7b' :: (t ++ r)) = skipFieldsWithin room (t ++ r) := by
  obtain ⟨s, hs⟩ := h.skipBlanks_field r
  rw [← skipFieldsWithin_skipBlanks, hs, skipValueWithin_brace, hs]
  rfl

/-- The text is skipped up to what follows it, blanks at its end apart. -/
def SkipsPast
    (skip : Nat → List Char → Reading (List Char))
    (t : List Char) : Prop :=
  ∃ b, IsBlanks b ∧ ∀ room r, 2 * t.length ≤ room → Text.Stops isNumberChar r →
    skip room (t ++ r) = .ok (b ++ r)

/-- Skips a field with its key. -/
def skipFieldWithin
    (room : Nat)
    (s : List Char) :
    Reading (List Char) := do
  let s ← skipKey s
  skipValueWithin room s

/-- What follows a part of a sequence or of an object: a comma and more parts, or the end. -/
def skipBehind
    (close : Char)
    (more : List Char → Reading (List Char)) : List Char → Reading (List Char)
  | [] => .error .truncated
  | c :: s => if c = ',' then more s else if c = close then .ok s else .error .malformed

/-- Parts are skipped one after the other, with commas between them, up to what closes them. -/
structure SkipsParts
    (close : Char)
    (part parts : Nat → List Char → Reading (List Char)) : Prop where
  parts_succ : ∀ room s, parts (room + 1) s =
    part room s >>= fun s => skipBehind close (parts room) (skipBlanks s)
  isBlank_close : isBlank close = false
  isNumberChar_close : isNumberChar close = false
  close_ne_comma : close ≠ ','

theorem skipsParts_elements :
    SkipsParts ']' skipValueWithin skipElementsWithin where
  parts_succ := by
    intro room s
    rw [skipElementsWithin]
    refine congrArg (skipValueWithin room s >>= ·) (funext fun s => ?_)
    rcases skipBlanks s with _ | ⟨c, s⟩
    · rfl
    · rw [skipBehind]
      split <;> simp_all
  isBlank_close := by decide
  isNumberChar_close := by decide
  close_ne_comma := by decide

theorem skipsParts_fields :
    SkipsParts '\x7d' skipFieldWithin skipFieldsWithin where
  parts_succ := by
    intro room s
    rw [skipFieldsWithin, skipFieldWithin, bind_assoc]
    refine congrArg (skipKey s >>= ·) (funext fun s => ?_)
    refine congrArg (skipValueWithin room s >>= ·) (funext fun s => ?_)
    rcases skipBlanks s with _ | ⟨c, s⟩
    · rfl
    · rw [skipBehind]
      split <;> simp_all
  isBlank_close := by decide
  isNumberChar_close := by decide
  close_ne_comma := by decide

section Parts

variable {close : Char}
variable {part parts : Nat → List Char → Reading (List Char)}

/-- Parts behind commas are skipped together with one in front of them. -/
def SkipsRest
    (close : Char)
    (part parts : Nat → List Char → Reading (List Char))
    (u : List Char) : Prop :=
  ∀ t, SkipsPast part t → ∀ room r, 2 * (t.length + u.length + 1) ≤ room →
    parts room (t ++ (u ++ close :: r)) = .ok r

/-- The last part is skipped with what closes the parts. -/
theorem SkipsParts.rest_nil
    (h : SkipsParts close part parts) :
    SkipsRest close part parts [] := by
  rintro t ⟨b, hb, hskip⟩ room r hroom
  obtain ⟨room, rfl⟩ : ∃ k, room = k + 1 := ⟨room - 1, by omega⟩
  rw [List.length_nil] at hroom
  rw [List.nil_append, h.parts_succ,
    hskip room _ (by omega) (Text.stops_cons h.isNumberChar_close r)]
  show skipBehind close (parts room) (skipBlanks (b ++ close :: r)) = .ok r
  rw [skipBlanks_append hb, skipBlanks_cons h.isBlank_close, skipBehind,
    if_neg h.close_ne_comma, if_pos rfl]

/-- Any other part is skipped with the comma behind it. -/
theorem SkipsParts.rest_cons
    (h : SkipsParts close part parts)
    {t u : List Char}
    (ht : SkipsPast part t)
    (hu : SkipsRest close part parts u) :
    SkipsRest close part parts (',' :: t ++ u) := by
  rintro t' ⟨b, hb, hskip⟩ room r hroom
  obtain ⟨room, rfl⟩ : ∃ k, room = k + 1 := ⟨room - 1, by omega⟩
  simp only [List.length_append, List.length_cons] at hroom
  simp only [List.append_assoc, List.cons_append]
  rw [h.parts_succ, hskip room _ (by omega) (Text.stops_cons (by decide) _)]
  show skipBehind close (parts room) (skipBlanks (b ++ ',' :: (t ++ (u ++ close :: r)))) = .ok r
  rw [skipBlanks_append hb, skipBlanks_cons (by decide), skipBehind, if_pos rfl]
  exact hu t ht room r (by omega)

end Parts

/-- What skipping does with a phrase. -/
def Phrase.IsSkipped : Phrase → List Char → Prop
  | value _, t =>
      ∀ room r, 2 * t.length ≤ room → Text.Stops isNumberChar r →
        skipValueWithin room (t ++ r) = .ok r
  | element _, t => SkipsPast skipValueWithin t
  | field _ _, t => SkipsPast skipFieldWithin t
  | elements _, u => SkipsRest ']' skipValueWithin skipElementsWithin u
  | fields _, u => SkipsRest '\x7d' skipFieldWithin skipFieldsWithin u

/-- A value takes at least one level. -/
theorem Spells.exists_room
    {v : Value}
    {t : List Char}
    (h : Spells (.value v) t)
    {room : Nat}
    (hroom : 2 * t.length ≤ room) :
    ∃ k, room = k + 1 := by
  obtain ⟨c, s, rfl, -⟩ := h.exists_begins
  rw [List.length_cons] at hroom
  exact ⟨room - 1, by omega⟩

/-- A key is skipped with the colon behind it. -/
theorem skipKey_append
    {b k b' : List Char}
    {key : String}
    (hb : IsBlanks b)
    (hk : SpellsText k key.toList)
    (hb' : IsBlanks b')
    (r : List Char) :
    skipKey (b ++ ('"' :: (k ++ '"' :: (b' ++ ':' :: r)))) = .ok r := by
  rw [skipKey, skipBlanks_append hb, skipBlanks_cons (by decide)]
  show skipText (k ++ '"' :: (b' ++ ':' :: r)) >>= readColon = .ok r
  rw [skipText_of_spellsText hk]
  show readColon (b' ++ ':' :: r) = .ok r
  rw [readColon, skipBlanks_append hb']
  rfl

/-- A field is skipped as its element is. -/
theorem SkipsPast.field
    {b k b' t : List Char}
    {key : String}
    (hb : IsBlanks b)
    (hk : SpellsText k key.toList)
    (hb' : IsBlanks b')
    (h : SkipsPast skipValueWithin t) :
    SkipsPast skipFieldWithin (b ++ '"' :: k ++ '"' :: b' ++ ':' :: t) := by
  obtain ⟨b'', hb'', hskip⟩ := h
  refine ⟨b'', hb'', ?_⟩
  intro room r hroom hr
  simp only [List.length_append, List.length_cons] at hroom
  simp only [List.append_assoc, List.cons_append]
  rw [skipFieldWithin, skipKey_append hb hk hb']
  exact hskip room r (by omega) hr

theorem skipValueWithin_number
    {t : List Char}
    (h : IsNumber t)
    (room : Nat)
    {r : List Char}
    (hr : Text.Stops isNumberChar r) :
    skipValueWithin (room + 1) (t ++ r) = .ok r := by
  have hskip := skipNumber_of_isNumber h hr
  obtain ⟨c, s, rfl, hc⟩ := h.exists_cons
  rw [List.cons_append] at hskip ⊢
  rw [skipValueWithin, skipBlanks_cons (not_isBlank_of_isDigit hc)]
  split
  all_goals rename_i heq
  case h_1 => cases heq
  case h_8 =>
    obtain ⟨rfl, rfl⟩ := List.cons.inj heq
    rw [if_pos hc]
    exact hskip
  -- No other form begins as a number does.
  all_goals
    obtain ⟨rfl, -⟩ := List.cons.inj heq
    simp at hc

/-- Every phrase is skipped as it is spelled. -/
theorem isSkipped_of_spells
    {phrase : Phrase}
    {t : List Char}
    (h : Spells phrase t) :
    phrase.IsSkipped t := by
  induction h with
  | null =>
      intro room r hroom hr
      obtain ⟨room, rfl⟩ := Spells.null.exists_room hroom
      exact readWord_append ['u', 'l', 'l'] r
  | boolean b =>
      intro room r hroom hr
      obtain ⟨room, rfl⟩ := (Spells.boolean b).exists_room hroom
      cases b with
      | true => exact readWord_append ['r', 'u', 'e'] r
      | false => exact readWord_append ['a', 'l', 's', 'e'] r
  | number h =>
      intro room r hroom hr
      obtain ⟨room, rfl⟩ := (Spells.number h).exists_room hroom
      exact skipValueWithin_number h room hr
  | text h =>
      intro room r hroom hr
      obtain ⟨room, rfl⟩ := (Spells.text h).exists_room hroom
      simp only [List.append_assoc, List.cons_append, List.nil_append]
      exact skipText_of_spellsText h r
  | @emptySequence b hb =>
      intro room r hroom hr
      obtain ⟨room, rfl⟩ := (Spells.emptySequence hb).exists_room hroom
      simp only [List.append_assoc, List.cons_append, List.nil_append]
      rw [skipValueWithin_bracket, skipBlanks_append hb]
      rfl
  | @sequence v l t u h hl ih ihl =>
      intro room r hroom hr
      simp only [List.length_append, List.length_cons, List.length_nil] at hroom
      obtain ⟨room, rfl⟩ : ∃ k, room = k + 1 := ⟨room - 1, by omega⟩
      simp only [List.append_assoc, List.cons_append, List.nil_append]
      rw [skipValueWithin_sequence h]
      exact ihl t ih room r (by omega)
  | @emptyObject b hb =>
      intro room r hroom hr
      obtain ⟨room, rfl⟩ := (Spells.emptyObject hb).exists_room hroom
      simp only [List.append_assoc, List.cons_append, List.nil_append]
      rw [skipValueWithin_brace, skipBlanks_append hb]
      rfl
  | @object key v l t u h hl ih ihl =>
      intro room r hroom hr
      simp only [List.length_append, List.length_cons, List.length_nil] at hroom
      obtain ⟨room, rfl⟩ : ∃ k, room = k + 1 := ⟨room - 1, by omega⟩
      simp only [List.append_assoc, List.cons_append, List.nil_append]
      rw [skipValueWithin_object h]
      exact ihl t ih room r (by omega)
  | @element v b t b' hb h hb' ih =>
      refine ⟨b', hb', ?_⟩
      intro room r hroom hr
      simp only [List.length_append] at hroom
      rw [List.append_assoc, List.append_assoc, ← skipValueWithin_skipBlanks,
        skipBlanks_append hb, skipValueWithin_skipBlanks]
      exact ih room (b' ++ r) (by omega) (stops_of_isBlanks hb' hr)
  | field hb hk hb' h ih => exact SkipsPast.field hb hk hb' ih
  | noElements => exact skipsParts_elements.rest_nil
  | moreElements h hl ih ihl => exact skipsParts_elements.rest_cons ih ihl
  | noFields => exact skipsParts_fields.rest_nil
  | moreFields h hl ih ihl => exact skipsParts_fields.rest_cons ih ihl

/-- Every element is skipped up to the blanks at its end, if no more of a number follows. -/
theorem skipValue_of_spells
    {v : Value}
    {t : List Char}
    (h : Spells (.element v) t) :
    ∃ b, IsBlanks b ∧ ∀ r, Text.Stops isNumberChar r → skipValue (t ++ r) = .ok (b ++ r) := by
  obtain ⟨b, hb, hskip⟩ := isSkipped_of_spells h
  refine ⟨b, hb, ?_⟩
  intro r hr
  refine hskip _ r ?_ hr
  rw [List.length_append]
  omega

end Skipping

end Json
end StageInterface
