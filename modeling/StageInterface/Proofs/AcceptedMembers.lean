import Mathlib.Data.List.Forall2
import StageInterface.Proofs.Insertions
import StageInterface.Proofs.MemberCalls
import StageInterface.Proofs.Text.Delimited
import StageInterface.Proofs.Text.Lines

/-!
# Accepted members

What a structure or block is after any sequence of member calls.  Only the calls
that were accepted count (`acceptedCalls`): the members are those of the accepted
calls, each key at the place where it was first accepted, with the member that
was accepted for it last (`Records`).  Text and offsets follow the order of the
keys.

Structures, uniform blocks and storage blocks differ in what they accept and not
in what they do with it (`TakesMembers`).

**Results.**
* `afterCalls_acceptedCalls`: without the refused calls the result is the same.
* `TakesMembers.records`: the members are those of the accepted calls.
* `Members.isWritten`, `Block.followsKeys`: there is one line of text and one
  offset for each key.
* `memberCalls_records`: all this for the three containers.
-/

namespace StageInterface

section Acceptance

variable {β : Type}
variable (add : β → Lexeme → Member → Except Fault β)

/-- The calls of a sequence that are accepted, in their order. -/
def acceptedCalls
    (b : β) :
    List (Lexeme × Member) → List (Lexeme × Member)
  | [] => []
  | call :: calls =>
      match add b call.1 call.2 with
      | .ok b' => call :: acceptedCalls b' calls
      | .error _ => acceptedCalls b calls

variable {add}

theorem acceptedCalls_cons_of_ok
    {b b' : β}
    {call : Lexeme × Member}
    (h : add b call.1 call.2 = .ok b')
    (calls : List (Lexeme × Member)) :
    acceptedCalls add b (call :: calls) = call :: acceptedCalls add b' calls := by
  rw [acceptedCalls, h]

theorem acceptedCalls_cons_of_error
    {b : β}
    {call : Lexeme × Member}
    {fault : Fault}
    (h : add b call.1 call.2 = .error fault)
    (calls : List (Lexeme × Member)) :
    acceptedCalls add b (call :: calls) = acceptedCalls add b calls := by
  rw [acceptedCalls, h]

theorem afterCalls_cons
    (b : β)
    (call : Lexeme × Member)
    (calls : List (Lexeme × Member)) :
    afterCalls add b (call :: calls) = afterCalls add (afterCall add b call) calls :=
  rfl

/-- Refused calls leave no trace. -/
theorem afterCalls_acceptedCalls
    (b : β)
    (calls : List (Lexeme × Member)) :
    afterCalls add b (acceptedCalls add b calls) = afterCalls add b calls := by
  induction calls generalizing b with
  | nil => rfl
  | cons call calls ih =>
      cases h : add b call.1 call.2 with
      | ok b' =>
          rw [acceptedCalls_cons_of_ok h, afterCalls_cons, afterCalls_cons, afterCall_of_ok h, ih]
      | error fault =>
          rw [acceptedCalls_cons_of_error h, afterCalls_cons, afterCall_of_error h, ih]

theorem exists_ok_of_mem_acceptedCalls
    {b : β}
    {calls : List (Lexeme × Member)}
    {call : Lexeme × Member}
    (hcall : call ∈ acceptedCalls add b calls) :
    ∃ b₁ b₂, add b₁ call.1 call.2 = .ok b₂ := by
  induction calls generalizing b with
  | nil => cases hcall
  | cons first calls ih =>
      cases hfirst : add b first.1 first.2 with
      | ok b' =>
          rw [acceptedCalls_cons_of_ok hfirst] at hcall
          rcases List.mem_cons.1 hcall with rfl | hrest
          · exact ⟨b, b', hfirst⟩
          · exact ih hrest
      | error fault =>
          rw [acceptedCalls_cons_of_error hfirst] at hcall
          exact ih hcall

end Acceptance

section Records

variable {β : Type}

/-- A container made of its members takes in complete members only, puts each under its key and
changes nothing else. -/
structure TakesMembers
    (add : β → Lexeme → Member → Except Fault β)
    (make : Members → β) : Prop where
  isComplete : ∀ {b b' : β} {key : Lexeme} {m : Member},
    add b key m = .ok b' → m.isComplete = true
  eq_insert : ∀ {members : Members} {key : Lexeme} {m : Member} {b : β},
    add (make members) key m = .ok b → b = make (members.insert key m)

/-- The members are what calls leave in a container that had none. -/
structure Records
    (add : β → Lexeme → Member → Except Fault β)
    (make : Members → β)
    (calls : List (Lexeme × Member))
    (members : Members) : Prop where
  /-- The calls change the members and nothing else. -/
  afterCalls_eq : afterCalls add (make .empty) calls = make members
  /-- The refused calls change nothing, -/
  acceptedCalls_eq :
    afterCalls add (make .empty) (acceptedCalls add (make .empty) calls) = make members
  /-- and the next one that is refused does not either. -/
  refused_eq : ∀ key m fault, add (make members) key m = .error fault →
    afterCall add (make members) (key, m) = make members
  nodup_keys : members.keys.Nodup
  /-- Keys stand in the order in which they were first accepted. -/
  keys_eq : members.keys = ((acceptedCalls add (make .empty) calls).map Prod.fst).eraseDups
  /-- Each key has the member that was accepted for it last. -/
  get?_eq : ∀ key, members.get? key =
    ((acceptedCalls add (make .empty) calls).filter
      (fun call => call.1 = key)).getLast?.map Prod.snd
  complete : ∀ m ∈ members.values, m.type ≠ .absent ∧ m.name ≠ .absent

namespace TakesMembers

variable {add : β → Lexeme → Member → Except Fault β}
variable {make : Members → β}

/-- The accepted members go under their keys one after the other. -/
theorem afterCalls_eq
    (h : TakesMembers add make)
    (members : Members)
    (calls : List (Lexeme × Member)) :
    afterCalls add (make members) calls =
      make (members.insertAll (acceptedCalls add (make members) calls)) := by
  induction calls generalizing members with
  | nil => rfl
  | cons call calls ih =>
      cases hcall : add (make members) call.1 call.2 with
      | ok b =>
          obtain rfl := h.eq_insert hcall
          rw [afterCalls_cons, afterCall_of_ok hcall, acceptedCalls_cons_of_ok hcall, ih]
          rfl
      | error fault =>
          rw [afterCalls_cons, afterCall_of_error hcall, acceptedCalls_cons_of_error hcall, ih]

/-- The members after some calls are those of the accepted ones. -/
theorem records
    (h : TakesMembers add make)
    {calls : List (Lexeme × Member)}
    {members : Members}
    (hmembers : members = OrderedMap.ofList (acceptedCalls add (make .empty) calls)) :
    Records add make calls members where
  afterCalls_eq := by
    rw [hmembers]
    exact h.afterCalls_eq .empty calls
  acceptedCalls_eq := by
    rw [afterCalls_acceptedCalls, hmembers]
    exact h.afterCalls_eq .empty calls
  refused_eq := fun _ _ _ hrefused => afterCall_of_error hrefused
  nodup_keys := members.nodup_keys
  keys_eq := by
    rw [hmembers]
    exact OrderedMap.keys_ofList _
  get?_eq := by
    intro key
    rw [hmembers]
    exact (OrderedMap.get?_insertAll .empty _ key).trans Option.or_none
  complete := by
    intro m hm
    rw [hmembers] at hm
    obtain ⟨call, hcall, rfl⟩ := OrderedMap.mem_of_mem_values_ofList hm
    obtain ⟨b, b', hok⟩ := exists_ok_of_mem_acceptedCalls hcall
    exact Member.isComplete_iff.1 (h.isComplete hok)

end TakesMembers

/-- The container holds no array sized at run time, and accepts exactly the complete members that
are none. -/
structure AdmitsFixed
    (add : β → Lexeme → Member → Except Fault β)
    (b : β)
    (members : Members) : Prop where
  extent_ne : ∀ m ∈ members.values, m.extent ≠ .runtime
  accepts_iff : ∀ key m, (∃ b', add b key m = .ok b') ↔
    (m.type ≠ .absent ∧ m.name ≠ .absent) ∧ m.extent ≠ .runtime

section Fixed

variable {add : β → Lexeme → Member → Except Fault β}
variable {put : β → Lexeme → Member → β}

theorem PutsFixed.exists_ok_iff
    (h : PutsFixed add put)
    (b : β)
    (key : Lexeme)
    (m : Member) :
    (∃ b', add b key m = .ok b') ↔ m.isComplete = true ∧ m.isRuntime = false := by
  constructor
  · rintro ⟨b', hok⟩
    exact (h.1 hok).1
  · intro hm
    exact ⟨put b key m, h.2 ⟨hm, rfl⟩⟩

theorem PutsFixed.takesMembers
    (h : PutsFixed add put)
    {make : Members → β}
    (hmake : ∀ members key m, put (make members) key m = make (members.insert key m)) :
    TakesMembers add make where
  isComplete := fun hok => (h.1 hok).1.1
  eq_insert := fun hok => (h.1 hok).2.symm.trans (hmake _ _ _)

/-- If exactly the complete members of fixed size are accepted, calls bring no others. -/
theorem PutsFixed.admitsFixed
    (h : PutsFixed add put)
    (start b : β)
    {calls : List (Lexeme × Member)}
    {members : Members}
    (hmembers : members = OrderedMap.ofList (acceptedCalls add start calls)) :
    AdmitsFixed add b members where
  extent_ne := by
    intro m hm hruntime
    rw [hmembers] at hm
    obtain ⟨call, hcall, rfl⟩ := OrderedMap.mem_of_mem_values_ofList hm
    obtain ⟨b₁, b₂, hok⟩ := exists_ok_of_mem_acceptedCalls hcall
    have hfixed := (h.1 hok).1.2
    rw [Member.isRuntime, hruntime] at hfixed
    cases hfixed
  accepts_iff := by
    intro key m
    rw [h.exists_ok_iff, Member.isComplete_iff, Member.isRuntime, Bool.eq_false_iff]
    exact and_congr_right (fun _ => not_congr Extent.isRuntime_iff)

end Fixed

end Records

section Lines

/-- The line that declares the member inside braces. -/
def Member.line
    (m : Member) : String :=
  "\t" ++ m.type.text ++ " " ++ m.name.text ++ m.extent.suffix ++ ";"

/-- Neither the type nor the name has a newline in it. -/
def Member.IsOneLine
    (m : Member) : Prop :=
  '\n' ∉ m.type.text.toList ∧ '\n' ∉ m.name.text.toList

/-- Between an opening and a closing the text has one line for each key, in the order of the keys.
If no type or name has a newline in it, these are lines of the text. -/
def Members.IsWritten
    (members : Members)
    (opening closing text : String) : Prop :=
  ∃ lines : List String,
    List.Forall₂ (fun key line => ∃ m, members.get? key = some m ∧ line = m.line)
      members.keys lines ∧
    text = opening ++ String.join (lines.map (· ++ "\n")) ++ closing ∧
    ((∀ m ∈ members.values, m.IsOneLine) →
      Text.linesOf text.toList =
        Text.linesOf opening.toList ++ lines.map String.toList ++ Text.linesOf closing.toList)

theorem Member.source_eq_line
    (m : Member) :
    "\t" ++ m.source = m.line ++ "\n" := by
  have hend : ";\n" = ";" ++ "\n" := by decide
  rw [source, line, hend]
  simp only [String.append_assoc]

theorem Extent.newline_not_mem_suffix
    (e : Extent) :
    '\n' ∉ e.suffix.toList := by
  cases e with
  | single => decide
  | fixed n _ =>
      have hdigits : '\n' ∉ Nat.toDigits 10 n.toNat := by
        intro hmem
        have hdigit := Nat.isDigit_of_mem_toDigits (by decide) (by decide) hmem
        revert hdigit
        decide
      simp [suffix, hdigits]
  | runtime => decide

theorem Member.IsOneLine.newline_not_mem_line
    {m : Member}
    (h : m.IsOneLine) :
    '\n' ∉ m.line.toList := by
  simp [line, h.1, h.2, m.extent.newline_not_mem_suffix]

/-- Lines that are written one behind the other are the lines of the text. -/
theorem linesOf_join_lines
    {lines : List String}
    (h : ∀ line ∈ lines, '\n' ∉ line.toList) :
    Text.linesOf (String.join (lines.map (· ++ "\n"))).toList = lines.map String.toList := by
  have htext : ∀ line ∈ lines, Text.linesOf (line ++ "\n").toList = [line.toList] := by
    intro line hline
    rw [String.toList_append]
    exact Text.linesOf_line (h line hline)
  have hends : ∀ line ∈ lines, Text.EndsLine (line ++ "\n").toList := by
    intro line _
    exact Text.endsLine_append_of_newline ⟨[], by decide⟩ line
  rw [String.toList_join, List.flatMap_map, Text.linesOf_flatMap hends, List.flatMap_congr htext,
    List.map_eq_flatMap]

/-- The lines of members end where a line ends. -/
theorem endsLine_join_lines
    (lines : List String) :
    Text.EndsLine (String.join (lines.map (· ++ "\n"))).toList := by
  rw [String.toList_join, List.flatMap_map]
  refine Text.EndsLine.flatMap ?_
  intro line _
  exact Text.endsLine_append_of_newline ⟨[], by decide⟩ line

/-- Members are written with one line for each key. -/
theorem Members.isWritten
    (members : Members)
    {opening : String}
    (hopening : Text.EndsLine opening.toList)
    (closing : String) :
    members.IsWritten opening closing (opening ++ members.source ++ closing) := by
  have hsource : members.source =
      String.join ((members.values.map Member.line).map (· ++ "\n")) := by
    rw [Members.source, List.map_map]
    exact congrArg String.join (List.map_congr_left (fun m _ => m.source_eq_line))
  refine ⟨members.values.map Member.line, ?_, by rw [hsource], ?_⟩
  · rw [OrderedMap.keys, OrderedMap.values, List.map_map, List.forall₂_map_left_iff,
      List.forall₂_map_right_iff, List.forall₂_same]
    intro e he
    exact ⟨e.2, OrderedMap.mem_entries_iff.1 he, rfl⟩
  · intro hlines
    have hnewline : ∀ line ∈ members.values.map Member.line, '\n' ∉ line.toList := by
      intro line hline
      obtain ⟨m, hm, rfl⟩ := List.mem_map.1 hline
      exact (hlines m hm).newline_not_mem_line
    rw [hsource, String.toList_append, String.toList_append, List.append_assoc,
      Text.linesOf_append hopening, Text.linesOf_append (endsLine_join_lines _),
      linesOf_join_lines hnewline, List.append_assoc]

end Lines

theorem Structure.takesMembers
    (name : Lexeme) :
    TakesMembers Structure.addMember (Structure.mk name) :=
  Structure.putsFixed.takesMembers (fun _ _ _ => rfl)

theorem UniformBlock.takesMembers
    (h : BlockHeader)
    (scope : Scope) :
    TakesMembers UniformBlock.addMember (fun members => ⟨⟨h, members, scope⟩⟩) :=
  UniformBlock.putsFixed.takesMembers (fun _ _ _ => rfl)

theorem StorageBlock.takesMembers
    (h : BlockHeader)
    (scope : Scope)
    (q : MemoryQualifiers) :
    TakesMembers StorageBlock.addMember (fun members => ⟨⟨h, members, scope⟩, q⟩) where
  isComplete := fun hok => (StorageBlock.eq_of_addMember hok).1
  eq_insert := fun hok => (StorageBlock.eq_of_addMember hok).2.2

namespace Block

/-- The text in front of the members of a block. -/
def openingSource
    (b : Block)
    (qualifiers : List String)
    (keyword : String) : String :=
  b.addressSource ++ String.join (qualifiers.map (· ++ " ")) ++ keyword ++ " " ++ b.name.text ++
    "\n\x7b\n"

theorem endsLine_openingSource
    (b : Block)
    (qualifiers : List String)
    (keyword : String) :
    Text.EndsLine (b.openingSource qualifiers keyword).toList := by
  unfold openingSource
  exact Text.endsLine_append_of_newline ⟨['\n', '\x7b'], by decide⟩ _

/-- The members of the block are written between its opening and its closing, one line for each
key, and their offsets are listed in the same order. -/
structure FollowsKeys
    (b : Block)
    (qualifiers : List String)
    (keyword source : String) : Prop where
  isWritten : b.members.IsWritten (b.openingSource qualifiers keyword) b.closingSource source
  keys_memberOffsets : b.memberOffsets.value.map Prod.fst = b.members.keys
  offsets_memberOffsets : b.memberOffsets.value.map Prod.snd = b.layout.value.offsets
  length_offsets : b.layout.value.offsets.length = b.members.size

theorem followsKeys
    (b : Block)
    (qualifiers : List String)
    (keyword : String) :
    b.FollowsKeys qualifiers keyword (b.bodySource qualifiers keyword) := by
  have hlength : b.layout.value.offsets.length = b.members.keys.length := by
    rw [OrderedMap.length_keys, ← OrderedMap.length_values]
    exact length_offsets_placeMembers b.policy _ b.name b.members.values
  refine ⟨?_, ?_, ?_, ?_⟩
  · exact Members.isWritten b.members (b.endsLine_openingSource qualifiers keyword) b.closingSource
  · exact List.map_fst_zip (Nat.le_of_eq hlength.symm)
  · exact List.map_snd_zip (Nat.le_of_eq hlength)
  · rw [hlength, OrderedMap.length_keys]

end Block

/-- What a structure, uniform block or storage block that had no members is after any member calls;
a block may have structures and qualifiers already.  The members are those of the accepted calls, in
the order in which their keys were first accepted.  Arrays sized at run time are for storage blocks
only.  The text has one line for each key in this order, and the layout has one offset. -/
theorem memberCalls_records
    (name : Lexeme)
    (h : BlockHeader)
    (scope : Scope)
    (q : MemoryQualifiers)
    (calls : List (Lexeme × Member)) :
    (let s := afterCalls Structure.addMember (.ofName name) calls
     Records Structure.addMember (Structure.mk name) calls s.members ∧
     AdmitsFixed Structure.addMember s s.members ∧
     s.members.IsWritten ("struct " ++ name.text ++ "\n\x7b\n") "\x7d;\n" s.source ∧
     ∀ p σ, (s.layout p σ).value.offsets.length = s.members.size) ∧
    (let make : Members → UniformBlock := fun members => ⟨⟨h, members, scope⟩⟩
     let b := afterCalls UniformBlock.addMember (make .empty) calls
     Records UniformBlock.addMember make calls b.members ∧
     AdmitsFixed UniformBlock.addMember b b.members ∧
     b.FollowsKeys [] "uniform" b.source) ∧
    (let make : Members → StorageBlock := fun members => ⟨⟨h, members, scope⟩, q⟩
     let b := afterCalls StorageBlock.addMember (make .empty) calls
     Records StorageBlock.addMember make calls b.members ∧
     b.FollowsKeys q.keywords "buffer" b.source) := by
  refine ⟨?_, ?_, ?_⟩
  · intro s
    have htakes := Structure.takesMembers name
    have hs : s = ⟨name, _⟩ := htakes.afterCalls_eq .empty calls
    have hmembers : s.members = _ := congrArg Structure.members hs
    have hname : s.name = name := congrArg Structure.name hs
    refine ⟨htakes.records hmembers, ?_, ?_, ?_⟩
    · exact Structure.putsFixed.admitsFixed _ s hmembers
    · have hopening : Text.EndsLine ("struct " ++ name.text ++ "\n\x7b\n").toList :=
        Text.endsLine_append_of_newline ⟨['\n', '\x7b'], by decide⟩ _
      rw [Structure.source, hname]
      exact Members.isWritten s.members hopening "\x7d;\n"
    · intro p σ
      rw [← OrderedMap.length_values]
      exact length_offsets_placeMembers p _ s.name s.members.values
  · intro make b
    have htakes := UniformBlock.takesMembers h scope
    have hmembers : b.members = _ :=
      congrArg (fun b => b.members) (htakes.afterCalls_eq .empty calls)
    refine ⟨htakes.records hmembers, ?_, ?_⟩
    · exact UniformBlock.putsFixed.admitsFixed _ b hmembers
    · exact b.followsKeys [] "uniform"
  · intro make b
    have htakes := StorageBlock.takesMembers h scope q
    have hb : b = make _ := htakes.afterCalls_eq .empty calls
    have hqualifiers : b.qualifiers = q := congrArg (fun b => b.qualifiers) hb
    refine ⟨htakes.records (congrArg (fun b => b.members) hb), ?_⟩
    rw [← hqualifiers]
    exact b.followsKeys b.qualifiers.keywords "buffer"

end StageInterface
