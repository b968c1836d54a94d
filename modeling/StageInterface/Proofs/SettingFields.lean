import StageInterface.Config.Written
import StageInterface.Proofs.Json.Values

/-!
# Settings in the fields of an object

Which objects give settings, and which ones: a field of a setting may occur
once, its value has to be one of those the setting is written as, and a setting
without a field keeps its standard value.  Fields with other names do not
matter.

A reader has to take the fields one after the other, each field of a setting
unless it was seen before.  The change that the fields make to settings can be
told from all of them at once, with the fields that were seen as what is
threaded through, and the two come to the same.

**Results.**
* `Setting.IsWrittenAs.unique`: no value stands for two settings of a field.
* `Holds.unique`: the fields determine the settings.
* `Admissible.congr`, `Holds.congr`: neither the order of the fields nor other
  fields matter.
* `takesAll_iff_changes`: the change that taken fields make, by induction on
  them.
* `exists_takesAll`: admissible fields can be taken.
* `takesAll_standard_iff`: what they give from the start.
-/

namespace StageInterface

theorem Profile.keyword_injective
    {p q : Profile}
    (h : p.keyword = q.keyword) :
    p = q := by
  revert h
  cases p <;> cases q <;> decide

namespace Config

/-- A value for one of the fields. -/
inductive Setting
  | glslVersion (v : UInt32)
  | profile (p : Profile)
  | sectionComments (b : Bool)
deriving DecidableEq

namespace Setting

def field : Setting → Field
  | glslVersion _ => .glslVersion
  | profile _ => .profile
  | sectionComments _ => .sectionComments

/-- The JSON values that stand for a setting: a version in decimal without sign, fraction and
exponent; the name of a profile, as a string or as the key of nothing; a truth value. -/
def IsWrittenAs : Setting → Json.Value → Prop
  | glslVersion n, v => v = .number (Nat.toDigits 10 n.toNat)
  | profile p, v => v.Names p.keyword
  | sectionComments b, v => v = .boolean b

/-- A value stands for at most one setting of a field. -/
theorem IsWrittenAs.unique
    {x y : Setting}
    {v : Json.Value}
    (hfield : x.field = y.field)
    (hx : x.IsWrittenAs v)
    (hy : y.IsWrittenAs v) :
    x = y := by
  cases x with
  | glslVersion m =>
      cases y with
      | glslVersion n =>
          obtain rfl := hx
          have htoNat : m.toNat = n.toNat :=
            Text.toDigits_injective (Json.Value.number.inj hy)
          rw [UInt32.toNat_inj.1 htoNat]
      | profile | sectionComments => cases hfield
  | profile p =>
      cases y with
      | profile q => rw [Profile.keyword_injective (Json.Value.Names.unique hx hy)]
      | glslVersion | sectionComments => cases hfield
  | sectionComments b =>
      cases y with
      | sectionComments b' =>
          obtain rfl := hx
          rw [Json.Value.boolean.inj hy]
      | glslVersion | profile => cases hfield

end Setting

def setting
    (c : Config) : Field → Setting
  | .glslVersion => .glslVersion c.glslVersion
  | .profile => .profile c.profile
  | .sectionComments => .sectionComments c.sectionComments

def set
    (c : Config) : Setting → Config
  | .glslVersion v => { c with glslVersion := v }
  | .profile p => { c with profile := p }
  | .sectionComments b => { c with sectionComments := b }

section Settings

variable {c c' : Config}
variable {f : Field}

@[simp] theorem field_setting
    (c : Config)
    (f : Field) :
    (c.setting f).field = f := by
  cases f <;> rfl

theorem setting_set
    (c : Config)
    (x : Setting)
    (f : Field) :
    (c.set x).setting f = if x.field = f then x else c.setting f := by
  cases x <;> cases f <;> rfl

theorem ext_setting
    (h : ∀ f, c.setting f = c'.setting f) :
    c = c' := by
  obtain ⟨n, p, b⟩ := c
  obtain ⟨n', p', b'⟩ := c'
  cases h .glslVersion
  cases h .profile
  cases h .sectionComments
  rfl

theorem ofKey?_eq_some_iff
    {key : String} :
    Field.ofKey? key = some f ↔ f.key = key := by
  constructor
  · intro h
    rw [Field.ofKey?] at h
    simpa using List.find?_some h
  · rintro rfl
    cases f <;> decide

theorem ofKey?_eq_none_iff
    {key : String} :
    Field.ofKey? key = none ↔ ∀ f : Field, f.key ≠ key := by
  simp only [Option.eq_none_iff_forall_ne_some, ne_eq, ofKey?_eq_some_iff]

theorem key_injective
    {f g : Field}
    (h : f.key = g.key) :
    f = g :=
  Option.some.inj ((ofKey?_eq_some_iff.2 h).symm.trans (ofKey?_eq_some_iff.2 rfl))

end Settings

section Fields

/-- The fields of an object may give settings: no field of a setting occurs twice, and each has a
value that stands for a setting. -/
structure Admissible
    (l : List (String × Json.Value)) : Prop where
  once : ∀ f : Field, (l.map Prod.fst).count f.key ≤ 1
  written : ∀ (f : Field) (v : Json.Value), (f.key, v) ∈ l →
    ∃ x : Setting, x.field = f ∧ x.IsWrittenAs v

/-- The settings are the ones in the fields, and the standard ones where there is no field. -/
structure Holds
    (c : Config)
    (l : List (String × Json.Value)) : Prop where
  given : ∀ (f : Field) (v : Json.Value), (f.key, v) ∈ l → (c.setting f).IsWrittenAs v
  absent : ∀ f : Field, f.key ∉ l.map Prod.fst → c.setting f = standard.setting f

/-- The fields of settings among the fields of an object. -/
def known
    (l : List (String × Json.Value)) : List (String × Json.Value) :=
  l.filter (fun x => (Field.ofKey? x.1).isSome)

variable {c c' : Config}
variable {l l' : List (String × Json.Value)}

/-- The fields determine the settings. -/
theorem Holds.unique
    (h : c.Holds l)
    (h' : c'.Holds l) :
    c = c' := by
  refine ext_setting (fun f => ?_)
  by_cases hf : f.key ∈ l.map Prod.fst
  · obtain ⟨⟨key, v⟩, hv, hkey⟩ := List.mem_map.1 hf
    obtain rfl : key = f.key := hkey
    refine Setting.IsWrittenAs.unique ?_ (h.given f v hv) (h'.given f v hv)
    rw [field_setting, field_setting]
  · rw [h.absent f hf, h'.absent f hf]

theorem mem_known_iff
    {f : Field}
    {v : Json.Value} :
    (f.key, v) ∈ known l ↔ (f.key, v) ∈ l := by
  rw [known, List.mem_filter, ofKey?_eq_some_iff.2 rfl]
  simp

theorem count_known
    (l : List (String × Json.Value))
    (f : Field) :
    ((known l).map Prod.fst).count f.key = (l.map Prod.fst).count f.key := by
  rw [List.count_eq_countP, List.count_eq_countP, List.countP_map, List.countP_map, known,
    List.countP_filter]
  refine List.countP_congr (fun x _ => ?_)
  have hkey : x.1 = f.key → (Field.ofKey? x.1).isSome = true := by
    intro h
    rw [ofKey?_eq_some_iff.2 h.symm]
    rfl
  simpa using hkey

theorem Admissible.tail
    {x : String × Json.Value}
    (h : Admissible (x :: l)) :
    Admissible l where
  once := fun f => Nat.le_trans List.count_le_count_cons (h.once f)
  written := fun f v hv => h.written f v (List.mem_cons_of_mem x hv)

/-- Only the fields of settings matter, in any order. -/
theorem Admissible.congr
    (hperm : (known l).Perm (known l'))
    (h : Admissible l) :
    Admissible l' where
  once := by
    intro f
    rw [← count_known, ← (hperm.map Prod.fst).count_eq, count_known]
    exact h.once f
  written := by
    intro f v hv
    exact h.written f v (mem_known_iff.1 (hperm.mem_iff.2 (mem_known_iff.2 hv)))

theorem Holds.congr
    (hperm : (known l).Perm (known l'))
    (h : c.Holds l) :
    c.Holds l' where
  given := by
    intro f v hv
    exact h.given f v (mem_known_iff.1 (hperm.mem_iff.2 (mem_known_iff.2 hv)))
  absent := by
    intro f hf
    refine h.absent f ?_
    rw [← List.count_eq_zero] at hf ⊢
    rwa [← count_known, (hperm.map Prod.fst).count_eq, count_known]

end Fields

section Runs

/-- Takes a field into the settings, with the fields that were seen before. -/
inductive Takes :
    Config × List Field → String × Json.Value → Config × List Field → Prop
  | other
      {c : Config}
      {seen : List Field}
      {key : String}
      {v : Json.Value}
      (hkey : ∀ f : Field, f.key ≠ key) :
      Takes (c, seen) (key, v) (c, seen)
  | setting
      {c : Config}
      {seen : List Field}
      {v : Json.Value}
      (x : Setting)
      (hseen : x.field ∉ seen)
      (hv : x.IsWrittenAs v) :
      Takes (c, seen) (x.field.key, v) (c.set x, x.field :: seen)

/-- Takes fields one after the other. -/
inductive TakesAll :
    Config × List Field → List (String × Json.Value) → Config → Prop
  | nil
      {c : Config}
      {seen : List Field} :
      TakesAll (c, seen) [] c
  | cons
      {state state' : Config × List Field}
      {field : String × Json.Value}
      {l : List (String × Json.Value)}
      {c : Config}
      (h : Takes state field state')
      (hl : TakesAll state' l c) :
      TakesAll state (field :: l) c

variable {c c' : Config}
variable {seen : List Field}
variable {l : List (String × Json.Value)}

variable {state : Config × List Field}

theorem takes_other
    {key : String}
    {v : Json.Value}
    (hkey : ∀ f : Field, f.key ≠ key) :
    Takes (c, seen) (key, v) state ↔ state = (c, seen) := by
  constructor
  · intro h
    cases h with
    | other => rfl
    | setting x => exact absurd rfl (hkey x.field)
  · rintro rfl
    exact .other hkey

theorem takes_setting
    {f : Field}
    {v : Json.Value} :
    Takes (c, seen) (f.key, v) state ↔
      f ∉ seen ∧ ∃ x : Setting, x.field = f ∧ x.IsWrittenAs v ∧ state = (c.set x, f :: seen) := by
  constructor
  · intro h
    generalize hkey : f.key = key at h
    cases h with
    | other hother => exact absurd hkey (hother f)
    | setting x hseen hv =>
        obtain rfl := key_injective hkey
        exact ⟨hseen, x, rfl, hv, rfl⟩
  · rintro ⟨hseen, x, rfl, hv, rfl⟩
    exact .setting x hseen hv

theorem takesAll_nil :
    TakesAll (c, seen) [] c' ↔ c' = c := by
  constructor
  · intro h
    cases h
    rfl
  · rintro rfl
    exact .nil

theorem takesAll_cons
    {field : String × Json.Value} :
    TakesAll state (field :: l) c ↔ ∃ state', Takes state field state' ∧ TakesAll state' l c := by
  constructor
  · intro h
    cases h with
    | cons h hl => exact ⟨_, h, hl⟩
  · rintro ⟨state', h, hl⟩
    exact .cons h hl

/-- What fields change settings to, told from all of them at once. -/
structure Changes
    (c : Config)
    (seen : List Field)
    (l : List (String × Json.Value))
    (c' : Config) : Prop where
  fresh : ∀ f ∈ seen, f.key ∉ l.map Prod.fst
  once : ∀ f : Field, (l.map Prod.fst).count f.key ≤ 1
  given : ∀ (f : Field) (v : Json.Value), (f.key, v) ∈ l → (c'.setting f).IsWrittenAs v
  absent : ∀ f : Field, f.key ∉ l.map Prod.fst → c'.setting f = c.setting f

theorem changes_other
    {key : String}
    {v : Json.Value}
    (hkey : ∀ f : Field, f.key ≠ key) :
    Changes c seen ((key, v) :: l) c' ↔ Changes c seen l c' := by
  have hmem : ∀ f : Field, f.key ∈ ((key, v) :: l).map Prod.fst ↔ f.key ∈ l.map Prod.fst := by
    simp [hkey]
  have hvalue : ∀ (f : Field) (v' : Json.Value), (f.key, v') ∈ (key, v) :: l ↔ (f.key, v') ∈ l := by
    simp [hkey]
  have hcount : ∀ f : Field, (((key, v) :: l).map Prod.fst).count f.key =
      (l.map Prod.fst).count f.key :=
    fun f => List.count_cons_of_ne (hkey f).symm
  constructor
  · rintro ⟨hfresh, honce, hgiven, habsent⟩
    simp only [hmem, hvalue, hcount] at hfresh honce hgiven habsent
    exact ⟨hfresh, honce, hgiven, habsent⟩
  · rintro ⟨hfresh, honce, hgiven, habsent⟩
    simp only [← hmem, ← hvalue, ← hcount] at hfresh honce hgiven habsent
    exact ⟨hfresh, honce, hgiven, habsent⟩

theorem not_mem_of_count_cons
    {f : Field}
    {l : List String}
    (h : (f.key :: l).count f.key ≤ 1) :
    f.key ∉ l := by
  rw [List.count_cons_self] at h
  exact List.count_eq_zero.1 (by omega)

theorem changes_setting
    {f : Field}
    {v : Json.Value} :
    Changes c seen ((f.key, v) :: l) c' ↔
      f ∉ seen ∧ ∃ x : Setting, x.field = f ∧ x.IsWrittenAs v ∧
        Changes (c.set x) (f :: seen) l c' := by
  constructor
  · intro h
    have hnot : f.key ∉ l.map Prod.fst := not_mem_of_count_cons (h.once f)
    refine ⟨fun hf => h.fresh f hf List.mem_cons_self, c'.setting f, field_setting c' f,
      h.given f v List.mem_cons_self, ?_, ?_, ?_, ?_⟩
    · intro g hg hmem
      rcases List.mem_cons.1 hg with rfl | hg
      · exact hnot hmem
      · exact h.fresh g hg (List.mem_cons_of_mem _ hmem)
    · exact fun g => Nat.le_trans (List.count_le_count_cons) (h.once g)
    · exact fun g v hv => h.given g v (List.mem_cons_of_mem _ hv)
    · intro g hg
      rw [setting_set, field_setting]
      split
      next heq => rw [heq]
      next hne =>
        refine h.absent g ?_
        rw [List.map_cons, List.mem_cons]
        rintro (hkey | hmem)
        · exact hne (key_injective hkey).symm
        · exact hg hmem
  · rintro ⟨hseen, x, rfl, hv, h⟩
    have hnot : x.field.key ∉ l.map Prod.fst := h.fresh x.field List.mem_cons_self
    have hx : c'.setting x.field = x := by rw [h.absent x.field hnot, setting_set, if_pos rfl]
    refine ⟨?_, ?_, ?_, ?_⟩
    · intro g hg hmem
      rcases List.mem_cons.1 hmem with hkey | hmem
      · exact hseen (key_injective hkey ▸ hg)
      · exact h.fresh g (List.mem_cons_of_mem _ hg) hmem
    · intro g
      rw [List.map_cons, List.count_cons]
      split
      next hkey =>
        obtain rfl := key_injective (beq_iff_eq.1 hkey)
        rw [List.count_eq_zero.2 hnot]
      next => exact h.once g
    · intro g v' hmem
      rcases List.mem_cons.1 hmem with heq | hmem
      · obtain ⟨hkey, rfl⟩ := Prod.mk.inj heq
        rwa [key_injective hkey, hx]
      · exact h.given g v' hmem
    · intro g hg
      rw [List.map_cons, List.mem_cons, not_or] at hg
      rw [h.absent g hg.2, setting_set, if_neg]
      rintro rfl
      exact hg.1 rfl

/-- Taking fields one after the other comes to the change that they make together. -/
theorem takesAll_iff_changes :
    TakesAll (c, seen) l c' ↔ Changes c seen l c' := by
  induction l generalizing c seen with
  | nil =>
      rw [takesAll_nil]
      constructor
      · rintro rfl
        exact ⟨by simp, by simp, by simp, by simp⟩
      · intro h
        exact ext_setting (fun f => h.absent f List.not_mem_nil)
  | cons field l ih =>
      obtain ⟨key, v⟩ := field
      rw [takesAll_cons]
      by_cases hkey : ∀ f : Field, f.key ≠ key
      · simp [takes_other hkey, changes_other hkey, ih]
      · obtain ⟨f, hf⟩ := not_forall.1 hkey
        obtain rfl := not_not.1 hf
        rw [changes_setting]
        constructor
        · rintro ⟨state', h, hl⟩
          obtain ⟨hseen, x, hx, hv, rfl⟩ := takes_setting.1 h
          exact ⟨hseen, x, hx, hv, ih.1 hl⟩
        · rintro ⟨hseen, x, hx, hv, hl⟩
          exact ⟨_, takes_setting.2 ⟨hseen, x, hx, hv, rfl⟩, ih.2 hl⟩

/-- Admissible fields can be taken. -/
theorem exists_takesAll
    (hfresh : ∀ f ∈ seen, f.key ∉ l.map Prod.fst)
    (h : Admissible l) :
    ∃ c', TakesAll (c, seen) l c' := by
  induction l generalizing c seen with
  | nil => exact ⟨c, .nil⟩
  | cons field l ih =>
      obtain ⟨key, v⟩ := field
      have hfresh' : ∀ f ∈ seen, f.key ∉ l.map Prod.fst :=
        fun f hf hmem => hfresh f hf (List.mem_cons_of_mem key hmem)
      by_cases hkey : ∀ f : Field, f.key ≠ key
      · obtain ⟨c', hc'⟩ := ih hfresh' h.tail
        exact ⟨c', .cons (.other hkey) hc'⟩
      · obtain ⟨f, hf⟩ := not_forall.1 hkey
        obtain rfl := not_not.1 hf
        obtain ⟨x, rfl, hv⟩ := h.written f v List.mem_cons_self
        have hseen : x.field ∉ seen := fun hx => hfresh x.field hx List.mem_cons_self
        have hnot : x.field.key ∉ l.map Prod.fst := not_mem_of_count_cons (h.once x.field)
        obtain ⟨c', hc'⟩ := ih (List.forall_mem_cons.2 ⟨hnot, hfresh'⟩) h.tail
        exact ⟨c', .cons (.setting x hseen hv) hc'⟩

/-- From the start, admissible fields give the settings that they hold. -/
theorem takesAll_standard_iff :
    TakesAll (standard, []) l c ↔ Admissible l ∧ c.Holds l := by
  rw [takesAll_iff_changes]
  constructor
  · rintro ⟨-, honce, hgiven, habsent⟩
    have hwritten : ∀ (f : Field) (v : Json.Value), (f.key, v) ∈ l →
        ∃ x : Setting, x.field = f ∧ x.IsWrittenAs v :=
      fun f v hv => ⟨c.setting f, field_setting c f, hgiven f v hv⟩
    exact ⟨⟨honce, hwritten⟩, hgiven, habsent⟩
  · rintro ⟨h, hgiven, habsent⟩
    exact ⟨List.forall_mem_nil _, h.once, hgiven, habsent⟩

end Runs

end Config
end StageInterface
