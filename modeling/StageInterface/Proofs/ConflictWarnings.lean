import StageInterface.Proofs.BindingSizes
import StageInterface.Proofs.DefinitionOrder.Conflicts
import StageInterface.Proofs.Text.Delimited

/-!
# Warnings of conflicting definitions

A text defines each name once.  A warning tells of every name that registered
structures define differently, and of no other name; without one, the text
defines a registered structure as it is.

**Results.**
* `Interface.conflict_mem_notices_iff`: which names are noticed when definitions
  are put in order.
* `Event.line_eq_conflictLine_iff`: no other event leaves the same line in a report.
* `Definition.conflictLine_mem_report_iff`: the two together, for what a
  generation reports.
-/

namespace StageInterface

namespace Interface

variable {i : Interface}

/-- A structure of the text is registered. -/
theorem registers_of_mem_arranged
    {s : Structure}
    (hs : s ∈ i.orderedStructures.value) :
    i.Registers s :=
  registers_of_get?_textScope (get?_textScope_iff.2 ⟨hs, rfl⟩)

/-- The text defines a name once. -/
theorem eq_of_mem_arranged
    {s s' : Structure}
    (hs : s ∈ i.orderedStructures.value)
    (hs' : s' ∈ i.orderedStructures.value)
    (hname : s.name = s'.name) :
    s = s' := by
  have hget : i.textScope.get? s.name = some s := get?_textScope_iff.2 ⟨hs, rfl⟩
  have hget' : i.textScope.get? s.name = some s' := get?_textScope_iff.2 ⟨hs', hname.symm⟩
  exact Option.some.inj (hget.symm.trans hget')

/-- What a registered structure is not noticed to conflict with, it agrees with: the text defines
it as it is. -/
theorem mem_arranged_of_registers
    {s : Structure}
    (hs : i.Registers s)
    (hquiet : .conflict s.name ∉ i.orderedStructures.notices) :
    s ∈ i.orderedStructures.value := by
  obtain ⟨scope, hr⟩ := registers_iff.1 hs
  rcases DefinitionOrder.mem_or_conflict_of_arrange i.structures hr with hmem | hconflict
  · exact hmem
  · exact absurd hconflict hquiet

/-- A name is noticed exactly when registered structures define it differently. -/
theorem conflict_mem_notices_iff
    {n : Lexeme} :
    .conflict n ∈ i.orderedStructures.notices ↔
      ∃ s s', i.Registers s ∧ i.Registers s' ∧ s.name = n ∧ s'.name = n ∧ s ≠ s' := by
  constructor
  · intro hn
    obtain ⟨s, ⟨r, hr, hknown⟩, hname, first, hfirst, hname', hdiffer⟩ :=
      (DefinitionOrder.reports_arrange i.structures i.registered).conflict n hn
    refine ⟨first, s, registers_of_mem_arranged hfirst, ?_, hname', hname, hdiffer⟩
    rcases hknown with ⟨-, rfl | ⟨type, htype⟩⟩
    · exact registers_iff.2 ⟨r.1, hr⟩
    · exact registers_of_lookup? hr htype
  · rintro ⟨s, s', hs, hs', rfl, hname, hdiffer⟩
    by_contra hquiet
    have hmem := mem_arranged_of_registers hs hquiet
    have hmem' := mem_arranged_of_registers hs' (hname ▸ hquiet)
    exact hdiffer (eq_of_mem_arranged hmem hmem' hname.symm)

end Interface

section Lines

theorem Level.isWord_label
    (l : Level) :
    Text.IsWord l.label := by
  cases l <;> decide

theorem Level.label_injective :
    Function.Injective Level.label := by
  intro l l' h
  cases l <;> cases l' <;> first | rfl | exact absurd h (by decide)

/-- The line of an event tells its level and its message. -/
theorem Event.line_eq_iff
    {e e' : Event} :
    e.line = e'.line ↔ e.level = e'.level ∧ e.message = e'.message := by
  have htext : ∀ e : Event, e.line.toList = e.level.label.toList ++ ' ' :: e.message.toList := by
    intro e
    show (e.level.label ++ " " ++ e.message).toList = _
    rw [String.toList_append, String.toList_append, List.append_assoc]
    rfl
  constructor
  · intro h
    have hlist := congrArg String.toList h
    rw [htext, htext] at hlist
    have hblank : ∀ s : List Char, Text.Stops Text.isWordChar (' ' :: s) :=
      Text.stops_cons (by decide)
    obtain ⟨hlabel, hmessage⟩ := Text.append_inj_of_stops (Level.isWord_label e.level).2
      (Level.isWord_label e'.level).2 (hblank _) (hblank _) hlist
    exact ⟨Level.label_injective (String.toList_inj.1 hlabel),
      String.toList_inj.1 (List.cons.inj hmessage).2⟩
  · rintro ⟨hlevel, hmessage⟩
    show e.level.label ++ " " ++ e.message = e'.level.label ++ " " ++ e'.message
    rw [hlevel, hmessage]

/-- The line of a report that tells of conflicting definitions of a name. -/
def conflictLine
    (n : Lexeme) : String :=
  "WARN Conflicting definitions of structure '" ++ n.text ++ "', keeping the first one emitted"

theorem line_conflict
    (n : Lexeme) :
    (Event.order (.conflict n)).line = conflictLine n := by
  have hstem : "WARN" ++ " " ++ "Conflicting definitions of structure '" =
      "WARN Conflicting definitions of structure '" := by decide
  show "WARN" ++ " " ++ ("Conflicting definitions of structure '" ++ n.text ++
    "', keeping the first one emitted") = "WARN Conflicting definitions of structure '" ++ n.text ++
    "', keeping the first one emitted"
  rw [← String.append_assoc, ← String.append_assoc, hstem]

theorem conflict_message_injective
    {n n' : Lexeme}
    (h : (OrderWarning.conflict n).message = (OrderWarning.conflict n').message) :
    n = n' := by
  have hlist : ("Conflicting definitions of structure '" ++ n.text ++
      "', keeping the first one emitted").toList =
    ("Conflicting definitions of structure '" ++ n'.text ++
      "', keeping the first one emitted").toList := congrArg String.toList h
  simp only [String.toList_append] at hlist
  exact Lexeme.ext_iff.2
    (String.toList_inj.1 (List.append_cancel_left (List.append_cancel_right hlist)))

/-- How the messages of the other warnings begin. -/
theorem Event.begins_message
    {e : Event}
    (hlevel : e.level = .warn)
    (hother : ∀ n, e ≠ .order (.conflict n)) :
    ∃ stem ∈ ["St", "Ca", "Un", "Sh"], Text.Begins stem e.message := by
  cases e with
  | layout w =>
      cases w with
      | tooDeep m =>
          refine ⟨"St", by decide, ?_⟩
          iterate 2 apply Text.Begins.append
          decide
      | unresolved owner m =>
          refine ⟨"Ca", by decide, ?_⟩
          iterate 6 apply Text.Begins.append
          decide
  | order w =>
      cases w with
      | tooDeep m =>
          refine ⟨"St", by decide, ?_⟩
          iterate 2 apply Text.Begins.append
          decide
      | conflict m => exact absurd rfl (hother m)
  | redeclared r =>
      obtain ⟨stem, hstem, hlabel⟩ :
          ∃ stem ∈ ["St", "Ca", "Un", "Sh"], Text.Begins stem r.kind.label := by
        cases r.kind <;> decide
      refine ⟨stem, hstem, ?_⟩
      iterate 7 apply Text.Begins.append
      exact hlabel
  | generating | counted | skippedIncomplete | skippedRuntimeInput | skippedRuntimeOutput
  | skippedForAttribute | ordering | emitting | generated => cases hlevel

/-- No other event leaves the line of a conflict. -/
theorem Event.line_eq_conflictLine_iff
    {e : Event}
    {n : Lexeme} :
    e.line = conflictLine n ↔ e = .order (.conflict n) := by
  constructor
  · intro h
    rw [← line_conflict, Event.line_eq_iff] at h
    obtain ⟨hlevel, hmessage⟩ := h
    by_cases he : ∃ m, e = .order (.conflict m)
    · obtain ⟨m, rfl⟩ := he
      rw [conflict_message_injective hmessage]
    · obtain ⟨stem, hstem, hbegins⟩ := Event.begins_message hlevel (not_exists.1 he)
      have hconflict : Text.Begins "Co" e.message := by
        rw [hmessage]
        iterate 2 apply Text.Begins.append
        decide
      have hlength : ∀ stem ∈ ["St", "Ca", "Un", "Sh"], stem.toList.length = 2 := by decide
      rw [hbegins.unique hconflict (hlength stem hstem)] at hstem
      exact absurd hstem (by decide)
  · rintro rfl
    exact line_conflict n

end Lines

namespace Definition

variable {f : Definition}
variable {c : Config}
variable {g : Geometry}
variable {source : StageSource}

theorem order_mem_notices_assemble_iff
    {i : Interface}
    {w : OrderWarning} :
    .order w ∈ (f.assemble c i).notices ↔ w ∈ i.orderedStructures.notices := by
  rw [assemble]
  simp [Noted.notices_mapM, Interface.arranged]

theorem order_not_mem_notices_select
    {w : OrderWarning} :
    .order w ∉ (f.select g).notices := by
  rw [select, List.mem_filterMap]
  rintro ⟨d, -, hd⟩
  unfold Declaration.skipEvent? at hd
  split at hd <;> simp at hd

/-- What is noticed while definitions are put in order is an event of the generation. -/
theorem order_mem_notices_generate_iff
    (hsource : (f.generate c g).value = .ok source)
    {w : OrderWarning} :
    .order w ∈ (f.generate c g).notices ↔ w ∈ (f.selected g).orderedStructures.notices := by
  have hsome : ¬ ((f.selected g).isEmpty && f.mainBody.isNone) = true := by
    intro hnone
    rw [value_generate, if_pos (by simpa using hnone)] at hsource
    cases hsource
  have hselect : (f.select g).value = f.selected g := rfl
  rw [generate]
  simp only [Noted.notices_bind, Noted.notices_note, List.mem_append, List.mem_singleton,
    order_not_mem_notices_select, reduceCtorEq, false_or]
  rw [hselect, if_neg hsome, Noted.notices_map]
  exact order_mem_notices_assemble_iff

/-- A generation reports a conflict of definitions for the names that registered structures define
differently, and for no others, at whatever level it reports.  Where it reports none, the text
defines the registered structures of the name as they are. -/
theorem conflictLine_mem_report_iff
    (hsource : (f.generate c g).value = .ok source)
    (threshold : Level) :
    (∀ n, conflictLine n ∈ Event.report threshold (f.generate c g).notices ↔
      ∃ s s', (f.selected g).Registers s ∧ (f.selected g).Registers s' ∧
        s.name = n ∧ s'.name = n ∧ s ≠ s') ∧
    source.code = f.render c (f.selected g).arranged.value ∧
    ∀ s, (f.selected g).Registers s →
      conflictLine s.name ∉ Event.report threshold (f.generate c g).notices →
        (f.selected g).textScope.get? s.name = some s := by
  have hreport : ∀ n, conflictLine n ∈ Event.report threshold (f.generate c g).notices ↔
      .conflict n ∈ (f.selected g).orderedStructures.notices := by
    intro n
    rw [← order_mem_notices_generate_iff hsource, Event.report, List.mem_map]
    constructor
    · rintro ⟨e, he, hline⟩
      rw [Event.line_eq_conflictLine_iff.1 hline] at he
      exact (List.mem_filter.1 he).1
    · intro hn
      refine ⟨_, List.mem_filter.2 ⟨hn, ?_⟩, line_conflict n⟩
      cases threshold <;> rfl
  refine ⟨?_, code_of_generate hsource, ?_⟩
  · intro n
    rw [hreport, Interface.conflict_mem_notices_iff]
  · intro s hs hquiet
    rw [hreport] at hquiet
    exact Interface.get?_textScope_iff.2 ⟨Interface.mem_arranged_of_registers hs hquiet, rfl⟩

section Lights

/-- A light with a color and one more field. -/
def light
    (type field : String) : Structure where
  name := ⟨"LightData"⟩
  members := (OrderedMap.empty.insert ⟨"color"⟩ (.single ⟨"vec4"⟩ ⟨"color"⟩)).insert ⟨field⟩
    (.single ⟨type⟩ ⟨field⟩)

/-- A block that registers its own notion of a light, and a material. -/
def lightBlock
    (name : String)
    (s : Structure) : UniformBlock where
  set := 0
  binding := 0
  policy := .std140
  name := ⟨name⟩
  instanceName := .absent
  extent := .single
  members := OrderedMap.empty.insert ⟨"light"⟩ (.single ⟨"LightData"⟩ ⟨"light"⟩)
  structures := OrderedMap.ofList [(s.name, s), (materialData.name, materialData)]

/-- Two blocks that agree on the material and not on lights. -/
def lights : Definition where
  stage := .fragment
  name := "Lights"
  declarations :=
    [.uniformBlock (lightBlock "Sun" (light "float" "range")),
      .uniformBlock (lightBlock "Lamp" (light "vec3" "direction")), .struct materialData]
  extensions := []
  mainBody := none

/-- Lights are reported to conflict, and the material is defined as both blocks know it. -/
theorem conflictLine_mem_report_iff_lights :
    let f := lights
    let g : Geometry := fun _ => false
    ∃ source, (f.generate default g).value = .ok source ∧
      conflictLine ⟨"LightData"⟩ ∈ Event.report .warn (f.generate default g).notices ∧
      conflictLine ⟨"MaterialData"⟩ ∉ Event.report .warn (f.generate default g).notices ∧
      (f.selected g).textScope.get? ⟨"MaterialData"⟩ = some materialData := by
  intro f g
  obtain ⟨source, hsource⟩ : ∃ source, (f.generate default g).value = .ok source := ⟨_, rfl⟩
  obtain ⟨hiff, -, hdefined⟩ := conflictLine_mem_report_iff hsource .warn
  have hone : ∀ s ∈ (f.selected g).registered.map Prod.snd,
      s.name = ⟨"MaterialData"⟩ → s = materialData := by
    decide +kernel
  have hmaterial : conflictLine ⟨"MaterialData"⟩ ∉
      Event.report .warn (f.generate default g).notices := by
    rw [hiff]
    rintro ⟨s, s', hs, hs', hname, hname', hdiffer⟩
    rw [Interface.registers_iff_mem] at hs hs'
    exact hdiffer ((hone s hs hname).trans (hone s' hs' hname').symm)
  refine ⟨source, hsource, ?_, hmaterial, ?_⟩
  · exact (hiff _).2 ⟨light "float" "range", light "vec3" "direction", by decide +kernel,
      by decide +kernel, rfl, rfl, by decide +kernel⟩
  · exact hdefined materialData (by decide +kernel) hmaterial

end Lights

end Definition
end StageInterface
