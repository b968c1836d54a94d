/-!
# Values with notices

A computation that notices things on its way returns them beside its value, in
the order in which they arose.

**Results.**
* `value_mapM`, `notices_mapM`: going through a list keeps both in list order.
* `value_foldlM`: the value of a fold does not depend on the notices.
-/

namespace StageInterface

/-- A value and what was noticed while it was computed. -/
structure Noted (ν α : Type) where
  value : α
  notices : List ν

namespace Noted

variable {ν μ α β : Type}

theorem ext {x y : Noted ν α} (hv : x.value = y.value) (hn : x.notices = y.notices) : x = y := by
  cases x
  cases y
  cases hv
  cases hn
  rfl

instance : Monad (Noted ν) where
  pure a := ⟨a, []⟩
  bind x f := ⟨(f x.value).value, x.notices ++ (f x.value).notices⟩

instance : LawfulMonad (Noted ν) :=
  LawfulMonad.mk' (Noted ν)
    (by intro α x; exact ext rfl (List.append_nil _))
    (by intro α β a f; rfl)
    (by intro α β γ x f g; exact ext rfl (List.append_assoc _ _ _))

def note (n : ν) : Noted ν Unit := ⟨(), [n]⟩

/-- Notes one thing if the condition holds. -/
def noteIf (c : Bool) (n : ν) : Noted ν Unit := ⟨(), if c then [n] else []⟩

/-- Passes the notices on in another form. -/
def relabel (f : ν → μ) (x : Noted ν α) : Noted μ α := ⟨x.value, x.notices.map f⟩

@[simp] theorem value_pure (a : α) : (pure a : Noted ν α).value = a := rfl

@[simp] theorem notices_pure (a : α) : (pure a : Noted ν α).notices = [] := rfl

@[simp] theorem value_bind (x : Noted ν α) (f : α → Noted ν β) :
    (x >>= f).value = (f x.value).value := rfl

@[simp] theorem notices_bind (x : Noted ν α) (f : α → Noted ν β) :
    (x >>= f).notices = x.notices ++ (f x.value).notices := rfl

@[simp] theorem value_map (f : α → β) (x : Noted ν α) : (f <$> x).value = f x.value := rfl

@[simp] theorem notices_map (f : α → β) (x : Noted ν α) : (f <$> x).notices = x.notices :=
  List.append_nil _

@[simp] theorem notices_note (n : ν) : (note n).notices = [n] := rfl

@[simp] theorem value_relabel (f : ν → μ) (x : Noted ν α) : (x.relabel f).value = x.value := rfl

@[simp] theorem notices_relabel (f : ν → μ) (x : Noted ν α) :
    (x.relabel f).notices = x.notices.map f := rfl

/-- The values of a list of computations, in list order. -/
theorem value_mapM (f : α → Noted ν β) (l : List α) :
    (l.mapM f).value = l.map (fun a => (f a).value) := by
  induction l with
  | nil => rfl
  | cons a l ih => simp [List.mapM_cons, ih]

/-- The notices of a list of computations, in list order. -/
theorem notices_mapM (f : α → Noted ν β) (l : List α) :
    (l.mapM f).notices = l.flatMap (fun a => (f a).notices) := by
  induction l with
  | nil => rfl
  | cons a l ih => simp [List.mapM_cons, ih]

/-- Folding a list of computations folds their values. -/
theorem value_foldlM (f : β → α → Noted ν β) (b : β) (l : List α) :
    (l.foldlM f b).value = l.foldl (fun b a => (f b a).value) b := by
  induction l generalizing b with
  | nil => rfl
  | cons a l ih => simp [List.foldlM_cons, ih]

end Noted
end StageInterface
