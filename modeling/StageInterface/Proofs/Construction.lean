import StageInterface.Block.Uniform
import StageInterface.Proofs.Block.RuntimeLast
import StageInterface.Proofs.Layout.Expansion

/-!
# Construction of blocks

The structures and blocks that calls can put together, one constructor for each
call that succeeds.  Refusals leave a trace in all of them: where a member sized
at run time may stand.  Structures and uniform blocks check a member alike, but
for the order of the checks (`PutsFixed`).

**Results.**
* `Structure.putsFixed`, `UniformBlock.putsFixed`: they accept exactly the
  complete members of fixed size.
* `Structure.Built.isRuntime_eq_false`: in no structure.
* `UniformBlock.Built.isRuntime_eq_false`: in no uniform block.
* `StorageBlock.Built.runtimeLast`: at the end of a storage block only.
* `Block.Built.isBuilt_structures`: the structures that a block brings along are
  such structures too.
-/

namespace StageInterface

/-- Insertion brings no value but its own. -/
theorem OrderedMap.mem_values_insert
    {κ ν : Type}
    [DecidableEq κ]
    {m : OrderedMap κ ν}
    {k : κ}
    {v w : ν}
    (h : w ∈ (m.insert k v).values) :
    w = v ∨ w ∈ m.values := by
  obtain ⟨k', hk'⟩ := OrderedMap.mem_values_iff.1 h
  rw [OrderedMap.get?_insert] at hk'
  split at hk'
  · exact Or.inl (Option.some.inj hk').symm
  · exact Or.inr (OrderedMap.mem_values_iff.2 ⟨k', hk'⟩)

/-- What holds of the values and of another one holds when that one is inserted. -/
theorem OrderedMap.forall_mem_values_insert
    {κ ν : Type}
    [DecidableEq κ]
    {m : OrderedMap κ ν}
    {motive : ν → Prop}
    (h : ∀ w ∈ m.values, motive w)
    (k : κ)
    {v : ν}
    (hv : motive v) :
    ∀ w ∈ (m.insert k v).values, motive w := by
  intro w hw
  rcases OrderedMap.mem_values_insert hw with rfl | hold
  · exact hv
  · exact h w hold

section Acceptance

/-- A container accepts exactly the complete members of fixed size, and puts each under its key. -/
def PutsFixed
    {β : Type}
    (add : β → Lexeme → Member → Except Fault β)
    (put : β → Lexeme → Member → β) : Prop :=
  ∀ {b b' : β} {key : Lexeme} {m : Member}, add b key m = .ok b' ↔
    (m.isComplete = true ∧ m.isRuntime = false) ∧ put b key m = b'

/-- What passes two checks in a row passes both, whatever their order. -/
theorem checked_eq_ok_iff
    {β : Type}
    {first second : Bool}
    {fault fault' : Fault}
    {b b' : β} :
    (if first = true then Except.error fault
      else if second = true then Except.error fault' else .ok b) = .ok b' ↔
      (first = false ∧ second = false) ∧ b = b' := by
  cases first <;> cases second <;> simp

theorem Structure.putsFixed :
    PutsFixed Structure.addMember
      (fun s key m => { s with members := s.members.insert key m }) := by
  intro s s' key m
  rw [Structure.addMember, checked_eq_ok_iff, Bool.not_eq_false']

theorem UniformBlock.putsFixed :
    PutsFixed UniformBlock.addMember
      (fun b key m => { b with members := b.members.insert key m }) := by
  intro b b' key m
  rw [UniformBlock.addMember, checked_eq_ok_iff, Bool.not_eq_false',
    and_comm (a := m.isRuntime = false)]

end Acceptance

/-- The structures that successful calls put together. -/
inductive Structure.Built : Structure → Prop
  | ofName
      (name : Lexeme) :
      Built (Structure.ofName name)
  | addMember
      {s s' : Structure}
      (key : Lexeme)
      (m : Member)
      (hs : Built s)
      (h : s.addMember key m = .ok s') :
      Built s'

/-- No member of a structure is sized at run time. -/
theorem Structure.Built.isRuntime_eq_false
    {s : Structure}
    (hs : s.Built) :
    ∀ m ∈ s.members.values, m.isRuntime = false := by
  induction hs with
  | ofName name => simp [Structure.ofName]
  | addMember key m hs h ih =>
      obtain ⟨⟨-, hruntime⟩, rfl⟩ := Structure.putsFixed.1 h
      exact OrderedMap.forall_mem_values_insert ih key hruntime

/-- Every structure of the scope is one that successful calls put together. -/
def Scope.IsBuilt
    (scope : Scope) : Prop :=
  ∀ s ∈ scope.values, s.Built

theorem Scope.isBuilt_empty :
    Scope.IsBuilt .empty := by
  intro s hs
  simp at hs

theorem Scope.IsBuilt.insert
    {scope : Scope}
    (h : scope.IsBuilt)
    (key : Lexeme)
    {s : Structure}
    (hs : s.Built) :
    Scope.IsBuilt (scope.insert key s) :=
  OrderedMap.forall_mem_values_insert h key hs

theorem Scope.IsBuilt.isFixed
    {scope : Scope}
    (h : scope.IsBuilt) :
    scope.IsFixed :=
  fun s hs => (h s hs).isRuntime_eq_false

namespace UniformBlock

/-- The uniform blocks that successful calls put together. -/
inductive Built : UniformBlock → Prop
  | ofHeader
      {h : BlockHeader}
      {b : UniformBlock}
      (hb : UniformBlock.ofHeader h = .ok b) :
      Built b
  | addMember
      {b b' : UniformBlock}
      (key : Lexeme)
      (m : Member)
      (hb : Built b)
      (h : b.addMember key m = .ok b') :
      Built b'
  | addStructure
      {b : UniformBlock}
      (key : Lexeme)
      {s : Structure}
      (hb : Built b)
      (hs : s.Built) :
      Built (b.addStructure key s)

theorem eq_of_ofHeader
    {h : BlockHeader}
    {b : UniformBlock}
    (hb : UniformBlock.ofHeader h = .ok b) :
    b = ⟨Block.ofHeader h⟩ := by
  rw [UniformBlock.ofHeader] at hb
  split at hb
  · simp at hb
  · exact (Except.ok.inj hb).symm

/-- No member of a uniform block is sized at run time. -/
theorem Built.isRuntime_eq_false
    {b : UniformBlock}
    (hb : b.Built) :
    ∀ m ∈ b.members.values, m.isRuntime = false := by
  induction hb with
  | ofHeader hb =>
      rw [eq_of_ofHeader hb]
      simp [Block.ofHeader]
  | addMember key m hb h ih =>
      obtain ⟨⟨-, hruntime⟩, rfl⟩ := putsFixed.1 h
      exact OrderedMap.forall_mem_values_insert ih key hruntime
  | addStructure key hb hs ih => exact ih

theorem Built.isBuilt_structures
    {b : UniformBlock}
    (hb : b.Built) :
    b.structures.IsBuilt := by
  induction hb with
  | ofHeader hb =>
      rw [eq_of_ofHeader hb]
      exact Scope.isBuilt_empty
  | addMember key m hb h ih =>
      obtain ⟨-, rfl⟩ := putsFixed.1 h
      exact ih
  | addStructure key hb hs ih => exact ih.insert key hs

end UniformBlock

namespace StorageBlock

/-- The storage blocks that successful calls put together. -/
inductive Built : StorageBlock → Prop
  | ofHeader
      (h : BlockHeader) :
      Built (StorageBlock.ofHeader h)
  | withQualifiers
      {b : StorageBlock}
      (q : MemoryQualifiers)
      (hb : Built b) :
      Built (b.withQualifiers q)
  | addMember
      {b b' : StorageBlock}
      (key : Lexeme)
      (m : Member)
      (hb : Built b)
      (h : b.addMember key m = .ok b') :
      Built b'
  | addStructure
      {b : StorageBlock}
      (key : Lexeme)
      {s : Structure}
      (hb : Built b)
      (hs : s.Built) :
      Built (b.addStructure key s)

/-- An accepted member is complete, leaves no array sized at run time astray and goes under its
key. -/
theorem eq_of_addMember
    {b b' : StorageBlock}
    {key : Lexeme}
    {m : Member}
    (h : b.addMember key m = .ok b') :
    m.isComplete = true ∧
      strayRuntime? b.members.values (b.slots key).1 (b.slots key).2 m = none ∧
        b' = { b with members := b.members.insert key m } := by
  rw [StorageBlock.addMember] at h
  split at h
  · simp at h
  next hcomplete =>
    split at h
    · simp at h
    next hstray =>
      rw [Bool.not_eq_true, Bool.not_eq_false'] at hcomplete
      exact ⟨hcomplete, hstray, (Except.ok.inj h).symm⟩

/-- Only the last member of a storage block may be sized at run time. -/
theorem Built.runtimeLast
    {b : StorageBlock}
    (hb : b.Built) :
    RuntimeLast b.members.values := by
  induction hb with
  | ofHeader h =>
      intro i m hm
      simp [StorageBlock.ofHeader, Block.ofHeader] at hm
  | withQualifiers q hb ih => exact ih
  | @addMember b b' key m hb h ih =>
      obtain ⟨-, hstray, rfl⟩ := eq_of_addMember h
      exact ((b.puts_slots key m).strayRuntime?_eq_none_iff ih).1 hstray
  | addStructure key hb hs ih => exact ih

theorem Built.isBuilt_structures
    {b : StorageBlock}
    (hb : b.Built) :
    b.structures.IsBuilt := by
  induction hb with
  | ofHeader h => exact Scope.isBuilt_empty
  | withQualifiers q hb ih => exact ih
  | addMember key m hb h ih =>
      obtain ⟨-, -, rfl⟩ := eq_of_addMember h
      exact ih
  | addStructure key hb hs ih => exact ih.insert key hs

end StorageBlock

namespace Block

/-- The uniform and storage blocks that successful calls put together. -/
inductive Built : Block → Prop
  | uniform
      {b : UniformBlock}
      (hb : b.Built) :
      Built b.toBlock
  | storage
      {b : StorageBlock}
      (hb : b.Built) :
      Built b.toBlock

theorem Built.isRuntime_eq_false
    {b : Block}
    (hb : b.Built) :
    ∀ m ∈ b.members.values.dropLast, m.isRuntime = false := by
  cases hb with
  | uniform hb => exact fun m hm => hb.isRuntime_eq_false m (List.dropLast_subset _ hm)
  | storage hb => exact runtimeLast_iff_dropLast.1 hb.runtimeLast

/-- What a block brings along are structures that successful calls put together. -/
theorem Built.isBuilt_structures
    {b : Block}
    (hb : b.Built) :
    b.structures.IsBuilt := by
  cases hb with
  | uniform hb => exact hb.isBuilt_structures
  | storage hb => exact hb.isBuilt_structures

theorem Built.isFixed
    {b : Block}
    (hb : b.Built) :
    b.structures.IsFixed :=
  hb.isBuilt_structures.isFixed

end Block
end StageInterface
