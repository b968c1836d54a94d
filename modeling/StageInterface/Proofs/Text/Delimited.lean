import Mathlib.Data.List.DropRight
import StageInterface.Text.Lines

/-!
# Delimited text

When what was put into a text can be told from the text again.  A run of
characters of one class ends where another character follows (`Stops`): this
delimits words, numbers and lines.  A sequence of pieces can be told apart when
each piece can be told from whatever follows it (`Legible`), and when what stands
behind the last one does not look like the beginning of another.

All statements compare two texts: if they are equal, so are their parts.

**Results.**
* `append_inj_of_stops`: runs of a class, whatever follows.
* `decimal_append_inj`, `phrase_append_inj`: numbers, and words with blanks
  between them.
* `Legible.flatMap_append_inj`: sequences of pieces.
* `Begins.unique`: what a text begins with, of a given length.
* `exists_toList_eq_trimNewlines_append`: nothing but newlines is lost at the end
  of a text.
-/

namespace StageInterface
namespace Text

/-- The text does not go on with a character of the class. -/
def Stops
    (p : Char → Bool)
    (s : List Char) : Prop :=
  ∀ c ∈ s.head?, p c = false

theorem stops_nil
    (p : Char → Bool) :
    Stops p [] := by
  simp [Stops]

theorem stops_cons
    {p : Char → Bool}
    {c : Char}
    (hc : p c = false)
    (s : List Char) :
    Stops p (c :: s) := by
  simpa [Stops] using hc

/-- A run of characters of a class can be told from what follows it. -/
theorem append_inj_of_stops
    {p : Char → Bool}
    {w w' r r' : List Char}
    (hw : ∀ c ∈ w, p c = true)
    (hw' : ∀ c ∈ w', p c = true)
    (hr : Stops p r)
    (hr' : Stops p r')
    (h : w ++ r = w' ++ r') :
    w = w' ∧ r = r' := by
  induction w generalizing w' with
  | nil =>
      cases w' with
      | nil => exact ⟨rfl, h⟩
      | cons c w' =>
          rw [List.nil_append, List.cons_append] at h
          have hc : p c = false := hr c (by rw [h]; rfl)
          exact absurd (hw' c List.mem_cons_self) (by simp [hc])
  | cons c w ih =>
      cases w' with
      | nil =>
          rw [List.nil_append, List.cons_append] at h
          have hc : p c = false := hr' c (by rw [← h]; rfl)
          exact absurd (hw c List.mem_cons_self) (by simp [hc])
      | cons c' w' =>
          rw [List.cons_append, List.cons_append, List.cons.injEq] at h
          obtain ⟨rfl, h⟩ := h
          obtain ⟨rfl, rfl⟩ := ih (fun x hx => hw x (List.mem_cons_of_mem c hx))
            (fun x hx => hw' x (List.mem_cons_of_mem c hx)) h
          exact ⟨rfl, rfl⟩

section Numbers

theorem toList_decimal
    (n : Nat) :
    (toString n).toList = Nat.toDigits 10 n := by
  rw [Nat.toString_eq_ofList_toDigits, String.toList_ofList]

theorem toDigits_injective
    {m n : Nat}
    (h : Nat.toDigits 10 m = Nat.toDigits 10 n) :
    m = n := by
  calc
    m = Nat.ofDigitChars 10 (Nat.toDigits 10 m) 0 := Nat.ofDigitChars_ten_toDigits.symm
    _ = Nat.ofDigitChars 10 (Nat.toDigits 10 n) 0 := by rw [h]
    _ = n := Nat.ofDigitChars_ten_toDigits

/-- A number can be told from what follows it, if that is no digit. -/
theorem decimal_append_inj
    {m n : Nat}
    {r r' : List Char}
    (hr : Stops Char.isDigit r)
    (hr' : Stops Char.isDigit r')
    (h : (toString m).toList ++ r = (toString n).toList ++ r') :
    m = n ∧ r = r' := by
  rw [toList_decimal, toList_decimal] at h
  have hdigits : ∀ n : Nat, ∀ c ∈ Nat.toDigits 10 n, c.isDigit = true :=
    fun _ _ hc => Nat.isDigit_of_mem_toDigits (by decide) (by decide) hc
  obtain ⟨hmn, hrest⟩ := append_inj_of_stops (hdigits m) (hdigits n) hr hr' h
  exact ⟨toDigits_injective hmn, hrest⟩

end Numbers

section Words

/-- Letters, digits and the underscore. -/
def isWordChar
    (c : Char) : Bool :=
  c.isAlphanum || c = '_'

/-- What words with blanks between them are made of. -/
def isPhraseChar
    (c : Char) : Bool :=
  isWordChar c || c = ' '

/-- The text is a word: some letters, digits and underscores. -/
def IsWord
    (s : String) : Prop :=
  s ≠ "" ∧ ∀ c ∈ s.toList, isWordChar c = true

instance (s : String) : Decidable (IsWord s) :=
  decidable_of_iff (s ≠ "" ∧ s.toList.all isWordChar = true) (by rw [IsWord, List.all_eq_true])

/-- Words, and behind each a blank. -/
def spaced
    (words : List String) : List Char :=
  words.flatMap (fun w => w.toList ++ [' '])

theorem Stops.word
    {s : List Char}
    (h : Stops isPhraseChar s) :
    Stops isWordChar s := by
  intro c hc
  have hphrase := h c hc
  rw [isPhraseChar, Bool.or_eq_false_iff] at hphrase
  exact hphrase.1

/-- Words with blanks between them can be told from each other and from what follows the last
one. -/
theorem phrase_append_inj
    {words words' : List String}
    {last last' : String}
    {r r' : List Char}
    (hwords : ∀ w ∈ words, IsWord w)
    (hwords' : ∀ w ∈ words', IsWord w)
    (hlast : IsWord last)
    (hlast' : IsWord last')
    (hr : Stops isPhraseChar r)
    (hr' : Stops isPhraseChar r')
    (h : spaced words ++ (last.toList ++ r) = spaced words' ++ (last'.toList ++ r')) :
    words = words' ∧ last = last' ∧ r = r' := by
  have hblank : ∀ s : List Char, Stops isWordChar (' ' :: s) := stops_cons (by decide)
  -- A last word is not followed by a blank, and the others are.
  have hdiffer : ∀ {w w' : String} {r s : List Char}, IsWord w → IsWord w' →
      Stops isPhraseChar r → w.toList ++ r ≠ w'.toList ++ ' ' :: s := by
    intro w w' r s hw hw' hr h
    obtain ⟨-, rfl⟩ := append_inj_of_stops hw.2 hw'.2 hr.word (hblank s) h
    exact absurd (hr ' ' rfl) (by decide)
  induction words generalizing words' with
  | nil =>
      cases words' with
      | nil =>
          obtain ⟨hw, hrest⟩ := append_inj_of_stops hlast.2 hlast'.2 hr.word hr'.word h
          exact ⟨rfl, String.toList_inj.1 hw, hrest⟩
      | cons w' words' =>
          have hw' := hwords' w' List.mem_cons_self
          simp only [spaced, List.flatMap_nil, List.flatMap_cons, List.nil_append,
            List.append_assoc, List.cons_append] at h
          exact absurd h (hdiffer hlast hw' hr)
  | cons w words ih =>
      have hw := hwords w List.mem_cons_self
      cases words' with
      | nil =>
          simp only [spaced, List.flatMap_nil, List.flatMap_cons, List.nil_append,
            List.append_assoc, List.cons_append] at h
          exact absurd h.symm (hdiffer hlast' hw hr')
      | cons w' words' =>
          have hw' := hwords' w' List.mem_cons_self
          simp only [spaced, List.flatMap_cons, List.append_assoc, List.cons_append,
            List.nil_append] at h
          obtain ⟨hww, hrest⟩ := append_inj_of_stops hw.2 hw'.2 (hblank _) (hblank _) h
          obtain ⟨rfl, hends⟩ := ih (fun x hx => hwords x (List.mem_cons_of_mem w hx))
            (fun x hx => hwords' x (List.mem_cons_of_mem w' hx)) (List.cons.inj hrest).2
          exact ⟨by rw [String.toList_inj.1 hww], hends⟩

end Words

section Pieces

variable {α : Type}

/-- Pieces that can be told from any text they stand in front of, and that begin with a
character of a class. -/
structure Legible
    (valid : α → Prop)
    (write : α → List Char)
    (mark : Char → Bool) : Prop where
  append_inj : ∀ {a b : α} {r s : List Char}, valid a → valid b →
    write a ++ r = write b ++ s → a = b ∧ r = s
  exists_mark : ∀ a, valid a → ∃ c s, write a = c :: s ∧ mark c = true

variable {valid : α → Prop}
variable {write : α → List Char}
variable {mark : Char → Bool}

/-- A piece is not written where none begins. -/
theorem Legible.not_stops
    (h : Legible valid write mark)
    {a : α}
    (ha : valid a)
    (s : List Char) :
    ¬ Stops mark (write a ++ s) := by
  obtain ⟨c, t, hwrite, hc⟩ := h.exists_mark a ha
  intro hstops
  have hfalse := hstops c (by simp [hwrite])
  rw [hc] at hfalse
  cases hfalse

/-- A sequence of pieces can be told from what follows it, if that does not begin as a piece. -/
theorem Legible.flatMap_append_inj
    (h : Legible valid write mark)
    {l l' : List α}
    {r s : List Char}
    (hl : ∀ a ∈ l, valid a)
    (hl' : ∀ a ∈ l', valid a)
    (hr : Stops mark r)
    (hs : Stops mark s)
    (heq : l.flatMap write ++ r = l'.flatMap write ++ s) :
    l = l' ∧ r = s := by
  induction l generalizing l' with
  | nil =>
      cases l' with
      | nil => exact ⟨rfl, heq⟩
      | cons b l' =>
          rw [List.flatMap_nil, List.nil_append, List.flatMap_cons, List.append_assoc] at heq
          exact absurd (heq ▸ hr) (h.not_stops (hl' b List.mem_cons_self) _)
  | cons a l ih =>
      cases l' with
      | nil =>
          rw [List.flatMap_nil, List.nil_append, List.flatMap_cons, List.append_assoc] at heq
          exact absurd (heq ▸ hs) (h.not_stops (hl a List.mem_cons_self) _)
      | cons b l' =>
          rw [List.flatMap_cons, List.flatMap_cons, List.append_assoc, List.append_assoc] at heq
          obtain ⟨rfl, hrest⟩ :=
            h.append_inj (hl a List.mem_cons_self) (hl' b List.mem_cons_self) heq
          obtain ⟨rfl, hends⟩ := ih (fun x hx => hl x (List.mem_cons_of_mem a hx))
            (fun x hx => hl' x (List.mem_cons_of_mem a hx)) hrest
          exact ⟨rfl, hends⟩

end Pieces

section Beginnings

/-- The text begins with the stem. -/
def Begins
    (stem s : String) : Prop :=
  stem.toList <+: s.toList

instance (stem s : String) : Decidable (Begins stem s) :=
  inferInstanceAs (Decidable (stem.toList <+: s.toList))

theorem Begins.append
    {stem s : String}
    (h : Begins stem s)
    (t : String) :
    Begins stem (s ++ t) := by
  rw [Begins, String.toList_append]
  exact h.trans (List.prefix_append _ _)

/-- A text begins with one stem of each length. -/
theorem Begins.unique
    {stem stem' s : String}
    (h : Begins stem s)
    (h' : Begins stem' s)
    (hlength : stem.toList.length = stem'.toList.length) :
    stem = stem' := by
  have hstems := List.prefix_of_prefix_length_le h h' (Nat.le_of_eq hlength)
  exact String.toList_inj.1 (hstems.eq_of_length hlength)

end Beginnings

section Newlines

/-- Nothing but newlines is lost at the end of a text. -/
theorem exists_toList_eq_trimNewlines_append
    (s : String) :
    ∃ k, s.toList = (trimNewlines s).toList ++ List.replicate k '\n' := by
  let p : Char → Bool := fun c => c = '\n'
  refine ⟨(s.toList.rtakeWhile p).length, ?_⟩
  have htail : s.toList.rtakeWhile p = List.replicate (s.toList.rtakeWhile p).length '\n' := by
    refine List.eq_replicate_iff.2 ⟨rfl, ?_⟩
    intro c hc
    simpa [p] using List.mem_rtakeWhile_imp hc
  have htrim : (trimNewlines s).toList = s.toList.rdropWhile p := by
    rw [trimNewlines, String.toList_ofList]
    rfl
  rw [htrim, ← htail, List.rdropWhile, List.rtakeWhile, ← List.reverse_append,
    List.takeWhile_append_dropWhile, List.reverse_reverse]

/-- Texts that are equal without the newlines at their ends are equal with enough of them. -/
theorem exists_append_newlines_eq
    {s s' : String}
    (h : trimNewlines s = trimNewlines s') :
    ∃ k k', s.toList ++ List.replicate k '\n' = s'.toList ++ List.replicate k' '\n' := by
  obtain ⟨m, hm⟩ := exists_toList_eq_trimNewlines_append s
  obtain ⟨n, hn⟩ := exists_toList_eq_trimNewlines_append s'
  refine ⟨n, m, ?_⟩
  rw [hm, hn, h, List.append_assoc, List.append_assoc, List.replicate_append_replicate,
    List.replicate_append_replicate, Nat.add_comm]

/-- Texts that differ in newlines at the end only are equal when the newlines are cut off: of each
the characters up to the last other one are the same. -/
theorem append_newlines_inj
    {s s' : List Char}
    {c : Char}
    (hc : c ≠ '\n')
    {k k' : Nat}
    (h : s ++ c :: List.replicate k '\n' = s' ++ c :: List.replicate k' '\n') :
    s = s' := by
  let p : Char → Bool := fun c => c = '\n'
  have hreverse := congrArg List.reverse h
  simp only [List.reverse_append, List.reverse_cons, List.reverse_replicate,
    List.append_assoc, List.singleton_append] at hreverse
  have hnewlines : ∀ k, ∀ x ∈ List.replicate k '\n', p x = true := by
    intro k x hx
    simp [p, List.eq_of_mem_replicate hx]
  have hstops : ∀ t : List Char, Stops p (c :: t) := stops_cons (by simp [p, hc])
  obtain ⟨-, hrest⟩ := append_inj_of_stops (hnewlines k) (hnewlines k') (hstops _) (hstops _)
    hreverse
  exact List.reverse_injective (List.cons.inj hrest).2

end Newlines

end Text
end StageInterface
