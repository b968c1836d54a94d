import StageInterface.Json.Number
import StageInterface.Proofs.Json.Grammar
import StageInterface.Proofs.Text.Delimited

/-!
# Numbers of JSON texts

A number that the grammar spells is skipped up to what follows it, if that does
not go on with it.  Read, it gives an integer exactly when it has neither
fraction nor exponent and fits; of these the ones without a sign are the natural
numbers in decimal.

**Results.**
* `skipNumber_of_isNumber`: any number is skipped.
* `readNumber_toDigits`, `eq_toDigits_of_readNumber`: which ones are read as
  integers that are not negative.
-/

namespace StageInterface
namespace Json

/-- What a number may go on with behind one of its digits. -/
def isNumberChar
    (c : Char) : Bool :=
  c.isDigit || c = '.' || c = 'e' || c = 'E'

section Digits

theorem startsWithDigit_eq_false_iff
    {s : List Char} :
    startsWithDigit s = false ↔ Text.Stops Char.isDigit s := by
  cases s <;> simp [startsWithDigit, Text.Stops]

theorem digit?_of_isDigit
    {c : Char}
    (hc : c.isDigit = true) :
    digit? c = some (c.toNat - '0'.toNat) := by
  rw [digit?, if_pos hc]

theorem digit?_eq_none
    {c : Char}
    (hc : c.isDigit = false) :
    digit? c = none := by
  rw [digit?, if_neg (by simp [hc])]

/-- A run of digits is taken up to what follows it. -/
theorem spanDigits_append
    {l r : List Char}
    (hl : ∀ c ∈ l, c.isDigit = true)
    (hr : Text.Stops Char.isDigit r) :
    spanDigits (l ++ r) = (l.length, r) := by
  have htake : r.takeWhile Char.isDigit = [] := by
    cases r with
    | nil => rfl
    | cons c r => rw [List.takeWhile_cons_of_neg (by simp [hr c rfl])]
  have hdrop : r.dropWhile Char.isDigit = r := by
    cases r with
    | nil => rfl
    | cons c r => rw [List.dropWhile_cons_of_neg (by simp [hr c rfl])]
  rw [spanDigits, List.takeWhile_append_of_pos hl, List.dropWhile_append_of_pos hl, htake, hdrop,
    List.append_nil]

theorem spanDigits_of_stops
    {s : List Char}
    (hs : Text.Stops Char.isDigit s) :
    spanDigits s = (0, s) :=
  spanDigits_append (List.forall_mem_nil _) hs

theorem stops_of_spanDigits
    {s : List Char}
    (h : (spanDigits s).1 = 0) :
    Text.Stops Char.isDigit s := by
  cases s with
  | nil => exact Text.stops_nil _
  | cons c s =>
      refine Text.stops_cons (Bool.eq_false_iff.2 ?_) s
      intro hc
      rw [spanDigits, List.takeWhile_cons_of_pos hc] at h
      simp at h

theorem le_ofDigitChars
    (l : List Char)
    (n : Nat) :
    n ≤ Nat.ofDigitChars 10 l n := by
  rw [Nat.ofDigitChars_eq_ofDigitChars_zero]
  have hpos : 0 < 10 ^ l.length := Nat.pow_pos (by decide)
  exact Nat.le_trans (Nat.le_mul_of_pos_left n hpos) (Nat.le_add_right _ _)

/-- Digits are taken as long as the number that they spell is not too large. -/
theorem takeDigits_append
    {most n : Nat}
    {l r : List Char}
    (hl : ∀ c ∈ l, c.isDigit = true)
    (hr : Text.Stops Char.isDigit r)
    (hmost : Nat.ofDigitChars 10 l n ≤ most) :
    takeDigits most n (l ++ r) = (Nat.ofDigitChars 10 l n, l.length, r) := by
  induction l generalizing n with
  | nil =>
      cases r with
      | nil => rfl
      | cons c r => simp [takeDigits, digit?_eq_none (hr c rfl)]
  | cons c l ih =>
      have hc : c.isDigit = true := hl c List.mem_cons_self
      rw [Nat.ofDigitChars_cons, Nat.mul_comm] at hmost
      have hstep : n * 10 + (c.toNat - '0'.toNat) ≤ most :=
        Nat.le_trans (le_ofDigitChars l _) hmost
      rw [List.cons_append, takeDigits, digit?_of_isDigit hc]
      dsimp only
      rw [if_pos hstep, ih (fun x hx => hl x (List.mem_cons_of_mem c hx)) hmost,
        Nat.ofDigitChars_cons, Nat.mul_comm 10 n, List.length_cons]

/-- What is taken are digits, and the number is the one that they spell. -/
theorem exists_takeDigits
    (most n : Nat)
    (s : List Char) :
    ∃ l, (∀ c ∈ l, c.isDigit = true) ∧ s = l ++ (takeDigits most n s).2.2 ∧
      (takeDigits most n s).1 = Nat.ofDigitChars 10 l n := by
  induction s generalizing n with
  | nil => exact ⟨[], by simp, rfl, rfl⟩
  | cons c s ih =>
      by_cases hc : c.isDigit = true
      · rw [takeDigits, digit?_of_isDigit hc]
        dsimp only
        split
        · obtain ⟨l, hl, hs, hn⟩ := ih (n * 10 + (c.toNat - '0'.toNat))
          refine ⟨c :: l, ?_, congrArg (c :: ·) hs, ?_⟩
          · intro x hx
            rcases List.mem_cons.1 hx with rfl | hx
            · exact hc
            · exact hl x hx
          · rw [Nat.ofDigitChars_cons, Nat.mul_comm 10 n]
            exact hn
        · exact ⟨[], by simp, rfl, rfl⟩
      · rw [takeDigits, digit?_eq_none (Bool.eq_false_iff.2 hc)]
        exact ⟨[], by simp, rfl, rfl⟩

theorem isDigit_of_mem_toDigits
    {n : Nat} :
    ∀ c ∈ Nat.toDigits 10 n, c.isDigit = true :=
  fun _ hc => Nat.isDigit_of_mem_toDigits (by decide) (by decide) hc

theorem IsDigits.exists_cons
    {s : List Char}
    (h : IsDigits s) :
    ∃ c l, s = c :: l ∧ c.isDigit = true := by
  obtain ⟨hne, hdigits⟩ := h
  cases s with
  | nil => exact absurd rfl hne
  | cons c l => exact ⟨c, l, rfl, hdigits c List.mem_cons_self⟩

theorem isDigits_toDigits
    (n : Nat) :
    IsDigits (Nat.toDigits 10 n) :=
  ⟨Nat.toDigits_ne_nil, isDigit_of_mem_toDigits⟩

/-- A number in decimal begins with a zero only if it is zero. -/
theorem toDigits_eq_or
    (n : Nat) :
    n = 0 ∧ Nat.toDigits 10 n = ['0'] ∨
      ∃ d l, Nat.toDigits 10 n = d :: l ∧ d ≠ '0' := by
  induction n using Nat.strongRecOn with
  | _ n ih =>
      by_cases hlt : n < 10
      · rw [Nat.toDigits_of_lt_base hlt]
        by_cases hzero : n = 0
        · subst hzero
          exact Or.inl ⟨rfl, rfl⟩
        · exact Or.inr ⟨_, _, rfl, by simpa using hzero⟩
      · have hdiv : n / 10 ≠ 0 := by omega
        rw [Nat.toDigits_of_base_le (by decide) (Nat.not_lt.1 hlt)]
        rcases ih (n / 10) (by omega) with ⟨hzero, -⟩ | ⟨d, l, hl, hd⟩
        · exact absurd hzero hdiv
        · exact Or.inr ⟨d, _, by rw [hl, List.cons_append], hd⟩

end Digits

section Skipping

variable {r : List Char}

/-- What does not go on with a number does not go on with its digits. -/
theorem stops_isDigit
    (hr : Text.Stops isNumberChar r) :
    Text.Stops Char.isDigit r := by
  intro c hc
  have h := hr c hc
  simp only [isNumberChar, Bool.or_eq_false_iff] at h
  exact h.1.1.1

/-- An exponent ends the digits in front of it. -/
theorem IsExponent.stops
    {s : List Char}
    (h : IsExponent s)
    (hr : Text.Stops isNumberChar r) :
    Text.Stops Char.isDigit (s ++ r) := by
  cases h with
  | absent => exact stops_isDigit hr
  | present hmark hsign h =>
      rcases hmark with rfl | rfl <;> exact Text.stops_cons (by decide) _

/-- So does a fraction. -/
theorem IsFraction.stops
    {s : List Char}
    (h : IsFraction s)
    (hr : Text.Stops Char.isDigit r) :
    Text.Stops Char.isDigit (s ++ r) := by
  cases h with
  | absent => exact hr
  | present h => exact Text.stops_cons (by decide) _

theorem skipDigits_append
    {s : List Char}
    (h : IsDigits s)
    (hr : Text.Stops Char.isDigit r) :
    skipDigits (s ++ r) = .ok r := by
  have hstarts : startsWithDigit (s ++ r) = true := by
    obtain ⟨c, l, rfl, hc⟩ := h.exists_cons
    exact hc
  rw [skipDigits, if_pos hstarts, spanDigits_append h.2 hr]

theorem skipInteger_append
    (n : Nat)
    (hr : Text.Stops Char.isDigit r) :
    skipInteger (Nat.toDigits 10 n ++ r) = .ok r := by
  rcases toDigits_eq_or n with ⟨-, hzero⟩ | ⟨d, l, hl, hd⟩
  · rw [hzero, List.singleton_append, skipInteger, startsWithDigit_eq_false_iff.2 hr]
    rfl
  · have hskip : skipInteger (Nat.toDigits 10 n ++ r) = skipDigits (Nat.toDigits 10 n ++ r) := by
      rw [hl, List.cons_append, skipInteger]
      simpa using hd
    rw [hskip, skipDigits_append (isDigits_toDigits n) hr]

theorem skipFraction_append
    {s : List Char}
    (h : IsFraction s)
    (hpoint : r.head? ≠ some '.')
    (hr : Text.Stops Char.isDigit r) :
    skipFraction (s ++ r) = .ok r := by
  cases h with
  | absent =>
      rw [List.nil_append, skipFraction]
      rintro s rfl
      exact hpoint rfl
  | present h => exact skipDigits_append h hr

/-- The sign of an exponent is told from its digits. -/
theorem exponentSign_append
    {sign s : List Char}
    (hsign : sign ∈ [[], ['+'], ['-']])
    (h : IsDigits s) :
    (exponentSign (sign ++ s ++ r)).2 = s ++ r := by
  obtain ⟨c, s, rfl, hc⟩ := h.exists_cons
  rcases List.mem_cons.1 hsign with rfl | hsign
  · show (exponentSign (c :: (s ++ r))).2 = c :: (s ++ r)
    rw [exponentSign]
    all_goals
      intro l heq
      obtain ⟨rfl, -⟩ := List.cons.inj heq
      simp at hc
  · rcases List.mem_pair.1 hsign with rfl | rfl <;> rfl

theorem skipExponent_append
    {s : List Char}
    (h : IsExponent s)
    (hr : Text.Stops isNumberChar r) :
    skipExponent (s ++ r) = .ok r := by
  cases h with
  | absent =>
      rw [List.nil_append, skipExponent]
      all_goals
        rintro s rfl
        exact absurd (hr _ rfl) (by decide)
  | @present mark sign s hmark hsign h =>
      have hskip : skipDigits (exponentSign (sign ++ s ++ r)).2 = .ok r := by
        rw [exponentSign_append hsign h, skipDigits_append h (stops_isDigit hr)]
      rcases hmark with rfl | rfl <;> exact hskip

/-- A number is skipped up to what follows it, if that does not go on with it. -/
theorem skipNumber_of_isNumber
    {s : List Char}
    (h : IsNumber s)
    (hr : Text.Stops isNumberChar r) :
    skipNumber (s ++ r) = .ok r := by
  cases h with
  | @mk sign fraction exponent hsign n hfraction hexponent =>
      have hpoint : (exponent ++ r).head? ≠ some '.' := by
        cases hexponent with
        | absent => exact fun hhead => absurd (hr '.' hhead) (by decide)
        | present hmark hsign h => rcases hmark with rfl | rfl <;> simp
      have hdigit := hexponent.stops hr
      have hunsigned :
          skipUnsigned (Nat.toDigits 10 n ++ (fraction ++ (exponent ++ r))) = .ok r := by
        rw [skipUnsigned, skipInteger_append n (hfraction.stops hdigit)]
        show skipFraction (fraction ++ (exponent ++ r)) >>= skipExponent = .ok r
        rw [skipFraction_append hfraction hpoint hdigit]
        exact skipExponent_append hexponent hr
      rw [List.append_assoc, List.append_assoc, List.append_assoc]
      rcases List.mem_pair.1 hsign with rfl | rfl
      · obtain ⟨d, l, hl, hd⟩ := (isDigits_toDigits n).exists_cons
        rw [hl] at hunsigned ⊢
        rw [List.nil_append, List.cons_append, skipNumber]
        · exact hunsigned
        · intro l' heq
          obtain ⟨rfl, -⟩ := List.cons.inj heq
          simp at hd
      · exact hunsigned

end Skipping

section Reading

variable {negative : Bool}
variable {i : Int}
variable {r s : List Char}

theorem realOf_ne_integer
    (n : Nat)
    (exponent : Int) :
    realOf negative n exponent s ≠ .ok (.integer i, r) := by
  unfold realOf
  split <;> simp

/-- What has an exponent is no integer. -/
theorem readExponent_ne_integer
    (n : Nat)
    (exponent : Int) :
    readExponent negative n exponent s ≠ .ok (.integer i, r) := by
  unfold readExponent
  dsimp only
  split
  · simp
  · split
    · simp
    · split
      · split <;> simp
      · exact realOf_ne_integer n _

theorem finishReal_ne_integer
    (n : Nat)
    (exponent : Int) :
    finishReal negative n exponent s ≠ .ok (.integer i, r) := by
  unfold finishReal
  split
  · exact readExponent_ne_integer n exponent
  · exact readExponent_ne_integer n exponent
  · exact realOf_ne_integer n exponent

/-- What has a fraction is no integer. -/
theorem readFraction_ne_integer
    (n : Nat)
    (exponent : Int) :
    readFraction negative n exponent s ≠ .ok (.integer i, r) := by
  unfold readFraction
  dsimp only
  split
  · exact finishReal_ne_integer _ _
  · split
    · split <;> simp
    · exact finishReal_ne_integer _ _

/-- What goes on behind its digits is no integer. -/
theorem finishNumber_eq_integer
    {n exponent : Nat}
    (h : finishNumber negative n exponent s = .ok (.integer i, r)) :
    (∀ c ∈ s.head?, c ≠ '.' ∧ c ≠ 'e' ∧ c ≠ 'E') ∧ exponent = 0 ∧
      wholeNumber negative n = .integer i ∧ r = s := by
  unfold finishNumber at h
  split at h
  · exact absurd h (readFraction_ne_integer n exponent)
  · exact absurd h (readExponent_ne_integer n exponent)
  · exact absurd h (readExponent_ne_integer n exponent)
  next hpoint he hE =>
    split at h
    next hexponent =>
      rw [Except.ok.injEq, Prod.mk.injEq] at h
      refine ⟨?_, hexponent, h.1, h.2.symm⟩
      intro c hc
      cases s with
      | nil => simp at hc
      | cons c' s =>
          obtain rfl : c' = c := Option.some.inj hc
          refine ⟨?_, ?_, ?_⟩
          · rintro rfl
            exact hpoint s rfl
          · rintro rfl
            exact he s rfl
          · rintro rfl
            exact hE s rfl
    · exact absurd h (realOf_ne_integer n exponent)

theorem readUnsigned_cons
    {d : Char}
    (hzero : d ≠ '0')
    (hd : d.isDigit = true)
    (s : List Char) :
    readUnsigned negative (d :: s) =
      finishNumber negative (takeDigits maxSignificand 0 (d :: s)).1
        (spanDigits (takeDigits maxSignificand 0 (d :: s)).2.2).1
        (spanDigits (takeDigits maxSignificand 0 (d :: s)).2.2).2 := by
  rw [readUnsigned]
  · simp [hd]
  · simpa using hzero

/-- The digits of what is read as an integer are all taken. -/
theorem finishNumber_of_readUnsigned
    {n : Nat}
    (hs : Text.Stops Char.isDigit s)
    (h : readUnsigned negative (Nat.toDigits 10 n ++ s) = .ok (.integer i, r)) :
    finishNumber negative n 0 s = .ok (.integer i, r) := by
  rcases toDigits_eq_or n with ⟨rfl, hzero⟩ | ⟨d, l, hl, hd⟩
  · rw [hzero, List.singleton_append, readUnsigned, startsWithDigit_eq_false_iff.2 hs] at h
    exact h
  · have hdigit : d.isDigit = true :=
      isDigit_of_mem_toDigits d (by rw [hl]; exact List.mem_cons_self)
    rw [hl, List.cons_append, readUnsigned_cons hd hdigit, ← List.cons_append, ← hl] at h
    obtain ⟨taken, htaken, happend, hvalue⟩ :=
      exists_takeDigits maxSignificand 0 (Nat.toDigits 10 n ++ s)
    obtain ⟨-, hplaces, -, -⟩ := finishNumber_eq_integer h
    -- No digit is left, so what has been taken is the number.
    have hrest : Text.Stops Char.isDigit
        (takeDigits maxSignificand 0 (Nat.toDigits 10 n ++ s)).2.2 :=
      stops_of_spanDigits hplaces
    obtain ⟨htoDigits, hs'⟩ :=
      Text.append_inj_of_stops isDigit_of_mem_toDigits htaken hs hrest happend
    rw [← hs', hvalue, ← htoDigits, Nat.ofDigitChars_ten_toDigits, spanDigits_of_stops hs] at h
    exact h

/-- A natural number in decimal is read as it is, if it fits. -/
theorem readUnsigned_toDigits
    {n : Nat}
    (hn : n ≤ maxSignificand)
    (hr : Text.Stops isNumberChar r) :
    readUnsigned false (Nat.toDigits 10 n ++ r) = .ok (.integer n, r) := by
  have hdigit := stops_isDigit hr
  have hfinish : finishNumber false n 0 r = .ok (.integer n, r) := by
    rw [finishNumber, if_pos rfl, wholeNumber]
    · rfl
    all_goals
      rintro s rfl
      exact absurd (hr _ rfl) (by decide)
  rcases toDigits_eq_or n with ⟨rfl, hzero⟩ | ⟨d, l, hl, hd⟩
  · rw [hzero, List.singleton_append, readUnsigned, startsWithDigit_eq_false_iff.2 hdigit]
    exact hfinish
  · have hd' : d.isDigit = true :=
      isDigit_of_mem_toDigits d (by rw [hl]; exact List.mem_cons_self)
    have htake : takeDigits maxSignificand 0 (Nat.toDigits 10 n ++ r) =
        (n, (Nat.toDigits 10 n).length, r) := by
      rw [takeDigits_append isDigit_of_mem_toDigits hdigit, Nat.ofDigitChars_ten_toDigits]
      rw [Nat.ofDigitChars_ten_toDigits]
      exact hn
    rw [hl, List.cons_append, readUnsigned_cons hd hd', ← List.cons_append, ← hl, htake,
      spanDigits_of_stops hdigit]
    exact hfinish

/-- No digit is a sign. -/
theorem readNumber_of_isDigits
    (h : IsDigits s) :
    readNumber (s ++ r) = readUnsigned false (s ++ r) := by
  obtain ⟨d, l, rfl, hd⟩ := h.exists_cons
  rw [List.cons_append, readNumber]
  intro l' heq
  obtain ⟨rfl, -⟩ := List.cons.inj heq
  simp at hd

/-- A natural number in decimal is read as it is, if it fits. -/
theorem readNumber_toDigits
    {n : Nat}
    (hn : n ≤ maxSignificand)
    (hr : Text.Stops isNumberChar r) :
    readNumber (Nat.toDigits 10 n ++ r) = .ok (.integer n, r) := by
  rw [readNumber_of_isDigits (isDigits_toDigits n), readUnsigned_toDigits hn hr]

/-- A negative number is read as a negative integer, if as an integer at all. -/
theorem wholeNumber_true_neg
    {n : Nat}
    (h : wholeNumber true n = .integer i) :
    i < 0 := by
  rw [wholeNumber] at h
  simp only [Bool.not_true, Bool.false_eq_true, if_false] at h
  split at h
  · simp at h
  next hsmall =>
    rw [Number.integer.injEq] at h
    omega

/-- What is read as an integer that is not negative is a natural number in decimal. -/
theorem eq_toDigits_of_readNumber
    (hs : IsNumber s)
    {r' : List Char}
    (hr : Text.Stops isNumberChar r)
    (h : readNumber (s ++ r) = .ok (.integer i, r'))
    (hi : 0 ≤ i) :
    s = Nat.toDigits 10 i.toNat ∧ r' = r := by
  cases hs with
  | @mk sign fraction exponent hsign n hfraction hexponent =>
      have hstops := hfraction.stops (hexponent.stops hr)
      rw [List.append_assoc, List.append_assoc, List.append_assoc] at h
      rcases List.mem_pair.1 hsign with rfl | rfl
      · rw [List.nil_append, readNumber_of_isDigits (isDigits_toDigits n)] at h
        obtain ⟨hhead, -, hwhole, rfl⟩ :=
          finishNumber_eq_integer (finishNumber_of_readUnsigned hstops h)
        cases hfraction with
        | present hdigits => exact absurd rfl (hhead '.' rfl).1
        | absent =>
            cases hexponent with
            | present hmark hexpsign hdigits =>
                rcases hmark with rfl | rfl
                · exact absurd rfl (hhead 'e' rfl).2.1
                · exact absurd rfl (hhead 'E' rfl).2.2
            | absent =>
                obtain rfl : (n : Int) = i := Number.integer.inj hwhole
                exact ⟨by simp, rfl⟩
      · obtain ⟨-, -, hwhole, -⟩ :=
          finishNumber_eq_integer (finishNumber_of_readUnsigned hstops h)
        exact absurd hi (Int.not_le.2 (wholeNumber_true_neg hwhole))

end Reading

end Json
end StageInterface
