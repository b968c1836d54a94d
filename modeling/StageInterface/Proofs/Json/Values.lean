import StageInterface.Json.Read
import StageInterface.Proofs.Json.Skipping

/-!
# Typed values of JSON texts

What reading a value of a certain type gives on a text that the grammar spells:
it succeeds on the values of that type and on no other, and leaves what follows
the value.

**Results.**
* `readBoolean_eq_ok_iff`, `readNull_eq_ok_iff`: truth values, and nothing.
* `readNatural32_eq_ok_iff`: natural numbers in decimal, if they fit.
* `readChoice_eq_ok_iff`: names, as strings or as the key of nothing.
-/

namespace StageInterface
namespace Json

variable {v : Value}
variable {t r r' : List Char}

section Readings

variable {α β : Type}

theorem bind_eq_ok_iff
    {x : Reading α}
    {f : α → Reading β}
    {b : β} :
    x >>= f = .ok b ↔ ∃ a, x = .ok a ∧ f a = .ok b := by
  cases x <;> simp [bind, Except.bind]

theorem refuse_ne_ok
    {expected : String}
    {s : List Char}
    {a : α} :
    refuse expected s ≠ .ok a := by
  rw [refuse, ne_eq, bind_eq_ok_iff]
  rintro ⟨found, -, hfound⟩
  cases hfound

end Readings

section Blanks

/-- Blanks in front of a value do not matter. -/
theorem readBoolean_skipBlanks
    (s : List Char) :
    readBoolean (skipBlanks s) = readBoolean s := by
  rw [readBoolean, readBoolean, skipBlanks_skipBlanks]

theorem readNull_skipBlanks
    (s : List Char) :
    readNull (skipBlanks s) = readNull s := by
  rw [readNull, readNull, skipBlanks_skipBlanks]

theorem readNatural32_skipBlanks
    (s : List Char) :
    readNatural32 (skipBlanks s) = readNatural32 s := by
  rw [readNatural32, readNatural32, skipBlanks_skipBlanks]

theorem readChoice_skipBlanks
    {α : Type}
    (choices : List (String × α))
    (s : List Char) :
    readChoice choices (skipBlanks s) = readChoice choices s := by
  rw [readChoice, readChoice, skipBlanks_skipBlanks]

end Blanks

section Words

/-- A truth value is read where one stands, and nowhere else. -/
theorem readBoolean_eq_ok_iff
    (h : Spells (.value v) t)
    {b : Bool} :
    readBoolean (t ++ r) = .ok (b, r') ↔ v = .boolean b ∧ r' = r := by
  by_cases hv : ∃ b, v = .boolean b
  · obtain ⟨b', rfl⟩ := hv
    have hread : readBoolean (t ++ r) = .ok (b', r) := by
      cases h with
      | boolean b' =>
          cases b' with
          | true =>
              show readWord ['r', 'u', 'e'] (['r', 'u', 'e'] ++ r) >>= _ = _
              rw [readWord_append]
              rfl
          | false =>
              show readWord ['a', 'l', 's', 'e'] (['a', 'l', 's', 'e'] ++ r) >>= _ = _
              rw [readWord_append]
              rfl
    rw [hread, Except.ok.injEq, Prod.mk.injEq, Value.boolean.injEq, eq_comm (a := r)]
  · have hrefuse : readBoolean (t ++ r) = refuse "a boolean" (t ++ r) := by
      obtain ⟨c, s, rfl, hc⟩ := h.exists_begins
      rw [List.cons_append, readBoolean, skipBlanks_cons hc.not_isBlank]
      split
      next heq => cases heq
      next heq =>
        obtain ⟨rfl, -⟩ := List.cons.inj heq
        cases hc with
        | truth => exact absurd ⟨_, rfl⟩ hv
        | number hc => simp at hc
      next heq =>
        obtain ⟨rfl, -⟩ := List.cons.inj heq
        cases hc with
        | falsity => exact absurd ⟨_, rfl⟩ hv
        | number hc => simp at hc
      · rfl
    rw [hrefuse]
    exact ⟨fun h => absurd h refuse_ne_ok, fun h => absurd ⟨b, h.1⟩ hv⟩

/-- Nothing is read where it stands, and nowhere else. -/
theorem readNull_eq_ok_iff
    (h : Spells (.value v) t) :
    readNull (t ++ r) = .ok r' ↔ v = .null ∧ r' = r := by
  by_cases hv : v = .null
  · subst hv
    have hread : readNull (t ++ r) = .ok r := by
      cases h with
      | null => exact readWord_append ['u', 'l', 'l'] r
    rw [hread, Except.ok.injEq]
    exact ⟨fun h => ⟨rfl, h.symm⟩, fun h => h.2.symm⟩
  · have hrefuse : readNull (t ++ r) = refuse "unit" (t ++ r) := by
      obtain ⟨c, s, rfl, hc⟩ := h.exists_begins
      rw [List.cons_append, readNull, skipBlanks_cons hc.not_isBlank]
      split
      next heq => cases heq
      next heq =>
        obtain ⟨rfl, -⟩ := List.cons.inj heq
        cases hc with
        | null => exact absurd rfl hv
        | number hc => simp at hc
      · rfl
    rw [hrefuse]
    exact ⟨fun h => absurd h refuse_ne_ok, fun h => absurd h.1 hv⟩

end Words

section Naturals

/-- A number is read as an integer that fits, or not at all. -/
theorem readNatural32_of_isNumber
    (h : IsNumber t)
    {n : UInt32} :
    readNatural32 (t ++ r) = .ok (n, r') ↔ readNumber (t ++ r) = .ok (.integer n.toNat, r') := by
  obtain ⟨c, s, rfl, hc⟩ := h.exists_cons
  rw [List.cons_append, readNatural32, skipBlanks_cons (not_isBlank_of_isDigit hc)]
  dsimp only
  rw [if_pos hc]
  cases readNumber (c :: (s ++ r)) with
  | error e => simp [bind, Except.bind]
  | ok x =>
      obtain ⟨number, rest⟩ := x
      cases number with
      | real x => simp [bind, Except.bind]
      | integer i =>
          show (if 0 ≤ i ∧ i.toNat < UInt32.size then _ else _) = _ ↔ _
          rw [Except.ok.injEq, Prod.mk.injEq, Number.integer.injEq]
          have hn : n.toNat < UInt32.size := n.toNat_lt
          split
          next hi =>
            rw [Except.ok.injEq, Prod.mk.injEq]
            refine and_congr_left' ⟨?_, ?_⟩
            · rintro rfl
              rw [UInt32.toNat_ofNat_of_lt' hi.2]
              omega
            · rintro rfl
              simp
          next hi =>
            constructor
            · intro h
              cases h
            · rintro ⟨rfl, -⟩
              omega

/-- A 32-bit number is read where it stands in decimal, and nowhere else. -/
theorem readNatural32_eq_ok_iff
    (h : Spells (.value v) t)
    (hr : Text.Stops isNumberChar r)
    {n : UInt32} :
    readNatural32 (t ++ r) = .ok (n, r') ↔ v = .number (Nat.toDigits 10 n.toNat) ∧ r' = r := by
  by_cases hv : ∃ literal, v = .number literal
  · obtain ⟨literal, rfl⟩ := hv
    cases h with
    | number h =>
        rw [Value.number.injEq]
        constructor
        · intro hread
          rw [readNatural32_of_isNumber h] at hread
          have hdigits := eq_toDigits_of_readNumber h hr hread (Int.natCast_nonneg _)
          rwa [Int.toNat_natCast] at hdigits
        · rintro ⟨rfl, rfl⟩
          have hn : n.toNat < 4294967296 := n.toNat_lt
          rw [readNatural32_of_isNumber h]
          exact readNumber_toDigits (Nat.le_of_lt (Nat.lt_trans hn (by decide))) hr
  · have hrefuse : readNatural32 (t ++ r) = refuse "u32" (t ++ r) := by
      obtain ⟨c, s, rfl, hc⟩ := h.exists_begins
      rw [List.cons_append, readNatural32, skipBlanks_cons hc.not_isBlank]
      cases hc with
      | number => exact absurd ⟨_, rfl⟩ hv
      | null | truth | falsity | text | sequence | object => rfl
    rw [hrefuse]
    exact ⟨fun h => absurd h refuse_ne_ok, fun h => absurd ⟨_, h.1⟩ hv⟩

end Naturals

section Parts

/-- An element is a value between blanks. -/
theorem Spells.exists_value
    (h : Spells (.element v) t) :
    ∃ u b, Spells (.value v) u ∧ IsBlanks b ∧
      ∀ r, skipBlanks (t ++ r) = skipBlanks (u ++ (b ++ r)) := by
  cases h with
  | @element v b u b' hb h hb' =>
      refine ⟨u, b', h, hb', ?_⟩
      intro r
      rw [List.append_assoc, List.append_assoc, skipBlanks_append hb]

/-- A field is read as its key, the colon and its element. -/
theorem Spells.exists_element
    {key : String}
    (h : Spells (.field key v) t) :
    ∃ s m u, Spells (.element v) u ∧ ∀ r, skipBlanks (t ++ r) = '"' :: (s ++ r) ∧
      readText (s ++ r) = .ok (key, m ++ r) ∧ readColon (m ++ r) = .ok (u ++ r) := by
  cases h with
  | @field key v b k b' u hb hk hb' h =>
      refine ⟨k ++ '"' :: b' ++ ':' :: u, b' ++ ':' :: u, u, h, ?_⟩
      intro r
      simp only [List.append_assoc, List.cons_append]
      refine ⟨?_, readText_of_spellsText hk _, ?_⟩
      · rw [skipBlanks_append hb]
        rfl
      · rw [readColon, skipBlanks_append hb']
        rfl

end Parts

section Choices

variable {α : Type}
variable {choices : List (String × α)}
variable {a : α}

/-- A name is written as a string, or as an object with nothing under the name. -/
def Value.Names
    (v : Value)
    (name : String) : Prop :=
  v = .text name ∨ v = .object [(name, .null)]

theorem Value.Names.unique
    {name name' : String}
    (h : v.Names name)
    (h' : v.Names name') :
    name = name' := by
  rcases h with rfl | rfl
  · rcases h' with h' | h'
    · exact text.inj h'
    · cases h'
  · rcases h' with h' | h'
    · cases h'
    · cases h'
      rfl

theorem choose_eq_ok_iff
    {name : String} :
    choose choices name = .ok a ↔ choices.lookup name = some a := by
  rw [choose]
  cases choices.lookup name <;> simp

theorem readChoice_quote
    (s : List Char) :
    readChoice choices ('"' :: s) = (do
      let (name, rest) ← readText s
      let a ← choose choices name
      pure (a, rest)) := by
  rw [readChoice, skipBlanks_cons (by decide)]
  rfl

/-- What follows the value under a name. -/
def readBehindName
    (a : α) : List Char → Reading (α × List Char)
  | [] => .error .truncated
  | '\x7d' :: s => .ok (a, s)
  | _ => .error .malformed

theorem readBehindName_eq_ok_iff
    {b : α}
    {s : List Char} :
    readBehindName b s = .ok (a, r') ↔ b = a ∧ s = '\x7d' :: r' := by
  unfold readBehindName
  split <;> simp_all

/-- A choice behind a brace. -/
def readNamed
    (choices : List (String × α)) : List Char → Reading (α × List Char)
  | [] => .error .truncated
  | '"' :: s => do
      let (name, rest) ← readText s
      let a ← choose choices name
      let rest ← readColon rest
      let rest ← readNull rest
      readBehindName a (skipBlanks rest)
  | _ => .error .malformed

theorem readChoice_brace
    (s : List Char) :
    readChoice choices ('\x7b' :: s) = readNamed choices (skipBlanks s) := by
  rw [readChoice, skipBlanks_cons (by decide)]
  rfl

theorem readChoice_text
    {name : String}
    (h : Spells (.value (.text name)) t) :
    readChoice choices (t ++ r) = .ok (a, r') ↔ choices.lookup name = some a ∧ r' = r := by
  cases h with
  | @text t name h =>
      simp only [List.append_assoc, List.cons_append, List.nil_append]
      rw [readChoice_quote, readText_of_spellsText h]
      show choose choices name >>= (fun a => .ok (a, r)) = _ ↔ _
      rw [bind_eq_ok_iff]
      simp only [choose_eq_ok_iff, Except.ok.injEq, Prod.mk.injEq]
      constructor
      · rintro ⟨a', ha, rfl, rfl⟩
        exact ⟨ha, rfl⟩
      · rintro ⟨ha, rfl⟩
        exact ⟨a, ha, rfl, rfl⟩

/-- A choice behind a brace: the name, nothing under it, and the end of the object. -/
theorem readChoice_field
    {key : String}
    (h : Spells (.field key v) t) :
    ∃ b, IsBlanks b ∧ (readChoice choices ('\x7b' :: (t ++ r)) = .ok (a, r') ↔
      choices.lookup key = some a ∧ v = .null ∧ skipBlanks (b ++ r) = '\x7d' :: r') := by
  obtain ⟨s, m, w, hw, hparts⟩ := h.exists_element
  obtain ⟨hblanks, htext, hcolon⟩ := hparts r
  obtain ⟨x, b, hx, hb, hvalue⟩ := hw.exists_value
  refine ⟨b, hb, ?_⟩
  have hnull : ∀ rest, readNull (w ++ r) = .ok rest ↔ v = .null ∧ rest = b ++ r := by
    intro rest
    rw [← readNull_skipBlanks, hvalue, readNull_skipBlanks, readNull_eq_ok_iff hx]
  rw [readChoice_brace, hblanks, readNamed, htext]
  show choose choices key >>= (fun a => readColon (m ++ r) >>= _) = _ ↔ _
  rw [hcolon]
  show choose choices key >>= (fun a => readNull (w ++ r) >>= _) = _ ↔ _
  constructor
  · intro hread
    obtain ⟨a', ha, hread⟩ := bind_eq_ok_iff.1 hread
    obtain ⟨rest, hrest, hread⟩ := bind_eq_ok_iff.1 hread
    obtain ⟨hv, rfl⟩ := (hnull rest).1 hrest
    obtain ⟨rfl, hend⟩ := readBehindName_eq_ok_iff.1 hread
    exact ⟨choose_eq_ok_iff.1 ha, hv, hend⟩
  · rintro ⟨ha, hv, hend⟩
    refine bind_eq_ok_iff.2 ⟨a, choose_eq_ok_iff.2 ha, ?_⟩
    refine bind_eq_ok_iff.2 ⟨b ++ r, (hnull _).2 ⟨hv, rfl⟩, ?_⟩
    exact readBehindName_eq_ok_iff.2 ⟨rfl, hend⟩

/-- No name is read where neither a string nor an object stands. -/
theorem readChoice_ne_ok
    (h : Spells (.value v) t)
    (htext : ∀ s, v ≠ .text s)
    (hobject : ∀ l, v ≠ .object l) :
    readChoice choices (t ++ r) ≠ .ok (a, r') := by
  obtain ⟨c, s, rfl, hc⟩ := h.exists_begins
  rw [List.cons_append, readChoice, skipBlanks_cons hc.not_isBlank]
  split
  next heq => cases heq
  next heq =>
    obtain ⟨rfl, -⟩ := List.cons.inj heq
    cases hc with
    | text => exact absurd rfl (htext _)
    | number hc => simp at hc
  next heq =>
    obtain ⟨rfl, -⟩ := List.cons.inj heq
    cases hc with
    | object => exact absurd rfl (hobject _)
    | number hc => simp at hc
  · simp

/-- An object ends behind its first field if it has no other. -/
theorem skipBlanks_fields
    {l : List (String × Value)}
    {b u : List Char}
    (hb : IsBlanks b)
    (hl : Spells (.fields l) u) :
    skipBlanks (b ++ (u ++ '\x7d' :: r)) = '\x7d' :: r' ↔ l = [] ∧ r' = r := by
  rw [skipBlanks_append hb]
  cases hl with
  | noFields =>
      rw [List.nil_append, skipBlanks_cons (by decide), List.cons.injEq]
      exact ⟨fun h => ⟨rfl, h.2.symm⟩, fun h => ⟨rfl, h.2.symm⟩⟩
  | moreFields =>
      simp only [List.cons_append]
      rw [skipBlanks_cons (by decide)]
      simp

/-- No name is read where an object holds nothing at all. -/
theorem readChoice_emptyObject
    {b : List Char}
    (hb : IsBlanks b) :
    readChoice choices ('\x7b' :: (b ++ '\x7d' :: r)) = .error .malformed := by
  rw [readChoice_brace, skipBlanks_append hb]
  rfl

theorem readChoice_object
    {l : List (String × Value)}
    (h : Spells (.value (.object l)) t) :
    readChoice choices (t ++ r) = .ok (a, r') ↔
      (∃ name, choices.lookup name = some a ∧ l = [(name, .null)]) ∧ r' = r := by
  cases h with
  | emptyObject hb =>
      simp only [List.append_assoc, List.cons_append, List.nil_append]
      rw [readChoice_emptyObject hb]
      simp
  | @object key v l t u h hl =>
      simp only [List.append_assoc, List.cons_append, List.nil_append]
      obtain ⟨b, hb, hread⟩ := readChoice_field h
      rw [hread, skipBlanks_fields hb hl]
      constructor
      · rintro ⟨ha, rfl, rfl, hr⟩
        exact ⟨⟨key, ha, rfl⟩, hr⟩
      · rintro ⟨⟨name, ha, heq⟩, hr⟩
        cases heq
        exact ⟨ha, rfl, rfl, hr⟩

/-- A choice is read where its name stands, and nowhere else. -/
theorem readChoice_eq_ok_iff
    (h : Spells (.value v) t) :
    readChoice choices (t ++ r) = .ok (a, r') ↔
      (∃ name, choices.lookup name = some a ∧ v.Names name) ∧ r' = r := by
  cases v with
  | text s =>
      rw [readChoice_text h]
      simp [Value.Names]
  | object l =>
      rw [readChoice_object h]
      simp [Value.Names]
  | null | boolean | number | sequence =>
      refine ⟨fun hread => absurd hread (readChoice_ne_ok h (by simp) (by simp)), ?_⟩
      simp [Value.Names]

end Choices

end Json
end StageInterface
