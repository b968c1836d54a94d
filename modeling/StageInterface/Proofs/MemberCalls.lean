import StageInterface.Proofs.Construction

/-!
# Sequences of member calls

Members are added by calls that may be refused, and a refused call leaves its
container as it is (`afterCall`).  What every accepted call keeps therefore
holds after any sequence of calls.

**Results.**
* `afterCalls_induction`: what accepted calls keep, all calls keep.
* `StorageBlock.addMember_runtimeLast`: in a storage block an array sized at run
  time comes last after any calls, and the next call is accepted exactly when
  its member is complete and this stays so.
-/

namespace StageInterface

section Calls

variable {β : Type}
variable (add : β → Lexeme → Member → Except Fault β)

/-- The container after a call with a key and a member; a refused call changes nothing. -/
def afterCall
    (b : β)
    (call : Lexeme × Member) : β :=
  match add b call.1 call.2 with
  | .ok b' => b'
  | .error _ => b

/-- The container after a sequence of calls. -/
def afterCalls
    (b : β)
    (calls : List (Lexeme × Member)) : β :=
  calls.foldl (afterCall add) b

variable {add}

theorem afterCall_of_ok
    {b b' : β}
    {key : Lexeme}
    {m : Member}
    (h : add b key m = .ok b') :
    afterCall add b (key, m) = b' := by
  simp only [afterCall, h]

theorem afterCall_of_error
    {b : β}
    {key : Lexeme}
    {m : Member}
    {fault : Fault}
    (h : add b key m = .error fault) :
    afterCall add b (key, m) = b := by
  simp only [afterCall, h]

/-- What accepted calls keep, all calls keep. -/
theorem afterCalls_induction
    {motive : β → Prop}
    (hstep : ∀ b b' key m, motive b → add b key m = .ok b' → motive b')
    {b : β}
    (hb : motive b)
    (calls : List (Lexeme × Member)) :
    motive (afterCalls add b calls) := by
  induction calls generalizing b with
  | nil => exact hb
  | cons call calls ih =>
      refine ih ?_
      cases h : add b call.1 call.2 with
      | ok b' =>
          rw [afterCall_of_ok h]
          exact hstep b b' call.1 call.2 hb h
      | error fault =>
          rw [afterCall_of_error h]
          exact hb

end Calls

/-- The values with the one of a key replaced where it stands, or put at the end if there is
none. -/
def OrderedMap.valuesWith
    {κ ν : Type}
    [DecidableEq κ]
    (map : OrderedMap κ ν)
    (k : κ)
    (v : ν) : List ν :=
  match map.indexOf? k with
  | some i => map.values.set i v
  | none => map.values ++ [v]

theorem Member.isComplete_iff
    {m : Member} :
    m.isComplete = true ↔ m.type ≠ .absent ∧ m.name ≠ .absent := by
  rw [Member.isComplete, Bool.and_eq_true, Lexeme.isPresent_iff, Lexeme.isPresent_iff]

namespace StorageBlock

/-- Only calls that succeed put a block together. -/
theorem Built.afterCalls
    {b : StorageBlock}
    (hb : b.Built)
    (calls : List (Lexeme × Member)) :
    (afterCalls StorageBlock.addMember b calls).Built :=
  afterCalls_induction (fun _ _ key m hb h => hb.addMember key m h) hb calls

variable {b : StorageBlock}
variable {key : Lexeme}
variable {m : Member}

/-- A complete member is accepted exactly when an array sized at run time comes last again. -/
theorem addMember_eq_ok_iff
    (hb : RuntimeLast b.members.values) :
    (∃ b', b.addMember key m = .ok b') ↔
      m.isComplete = true ∧ RuntimeLast (b.members.insert key m).values := by
  rw [← (b.puts_slots key m).strayRuntime?_eq_none_iff hb, addMember]
  cases m.isComplete with
  | false => simp
  | true =>
      cases strayRuntime? b.members.values (b.slots key).1 (b.slots key).2 m <;> simp

/-- What is refused for its place would stand in front of another member. -/
theorem exists_runtime_of_addMember
    {block name : Lexeme}
    (h : b.addMember key m = .error (.runtimeArrayNotLast block name)) :
    block = b.name ∧
      ∃ (i : Nat) (stray : Member), (b.members.insert key m).values[i]? = some stray ∧
        stray.isRuntime = true ∧ stray.name = name ∧
        i + 1 < (b.members.insert key m).values.length := by
  rw [addMember] at h
  split at h
  · simp at h
  · split at h
    next stray hstray =>
      rw [Except.error.injEq, Fault.runtimeArrayNotLast.injEq] at h
      obtain ⟨i, hi, hruntime, hlt⟩ :=
        (b.puts_slots key m).exists_runtime_of_strayRuntime? hstray
      have hends := (b.puts_slots key m).ends
      exact ⟨h.1.symm, i, stray, hi, hruntime, h.2, by omega⟩
    next => simp at h

/-- In a storage block an array sized at run time comes last, after any calls.  The next call is
accepted exactly when its member is complete and this stays so; it then changes the members in the
place of its key and nothing else.  A refusal changes nothing, and one for the place of an array
names an array that would have stood in front of another member. -/
theorem addMember_runtimeLast
    (h : BlockHeader)
    (calls : List (Lexeme × Member)) :
    let b := afterCalls StorageBlock.addMember (.ofHeader h) calls
    RuntimeLast b.members.values ∧
    (b.hasRuntimeArray = true ↔
      ∃ m, b.members.values.getLast? = some m ∧ m.isRuntime = true) ∧
    ∀ key m,
      ((∃ b', b.addMember key m = .ok b') ↔
        (m.type ≠ .absent ∧ m.name ≠ .absent) ∧ RuntimeLast (b.members.valuesWith key m)) ∧
      (∀ b', b.addMember key m = .ok b' →
        afterCall StorageBlock.addMember b (key, m) = b' ∧
          b' = { b with members := b.members.insert key m } ∧
          b'.members.values = b.members.valuesWith key m) ∧
      (∀ fault, b.addMember key m = .error fault →
        afterCall StorageBlock.addMember b (key, m) = b) ∧
      ∀ block name, b.addMember key m = .error (.runtimeArrayNotLast block name) →
        block = b.name ∧
          ∃ (i : Nat) (stray : Member), (b.members.valuesWith key m)[i]? = some stray ∧
            stray.isRuntime = true ∧ stray.name = name ∧
            i + 1 < (b.members.valuesWith key m).length := by
  intro b
  have hb : RuntimeLast b.members.values := ((Built.ofHeader h).afterCalls calls).runtimeLast
  refine ⟨hb, hb.runtimeSlot?_isSome_iff, ?_⟩
  intro key m
  have hvalues : (b.members.insert key m).values = b.members.valuesWith key m :=
    OrderedMap.values_insert b.members key m
  rw [← hvalues, ← Member.isComplete_iff]
  refine ⟨addMember_eq_ok_iff hb, ?_, ?_, ?_⟩
  · intro b' hok
    obtain ⟨-, -, rfl⟩ := eq_of_addMember hok
    exact ⟨afterCall_of_ok hok, rfl, rfl⟩
  · intro fault herror
    exact afterCall_of_error herror
  · intro block name herror
    exact exists_runtime_of_addMember herror

end StorageBlock
end StageInterface
