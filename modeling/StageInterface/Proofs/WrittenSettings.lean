import StageInterface.Proofs.SettingFields

/-!
# Reading written settings

Reading settings from the text of an object takes its fields one after the
other, whatever the text looks like: it succeeds if the fields are admissible,
and gives the settings that they hold.  Written settings are such a text.

**Results.**
* `readSetting_eq_ok_iff`: which values are read for a setting.
* `readField_eq_ok_iff`: reading a field takes it into the settings.
* `readFields_eq_ok_iff`: so reading all of them, by induction on the fields.
* `ofJson_eq_ok_iff`: what a whole text gives.
* `ofJson_toJson`: written settings are read back.
* `ofJson_determined_by_fields`: when a text gives settings and which ones, and
  that neither the order of the fields nor other fields matter.
-/

namespace StageInterface
namespace Config

open Json (Spells IsBlanks isNumberChar skipBlanks skipBlanks_append skipBlanks_cons bind_eq_ok_iff)

variable {c c' : Config}
variable {f : Field}
variable {v : Json.Value}
variable {t r r' : List Char}

section Settings

theorem lookup_profile_eq_some_iff
    {name : String}
    {p : Profile} :
    (Profile.all.map (fun p => (p.keyword, p))).lookup name = some p ↔ name = p.keyword := by
  constructor
  · intro h
    obtain ⟨l, l', heq, -⟩ := List.lookup_eq_some_iff.1 h
    have hmem : (name, p) ∈ Profile.all.map (fun p => (p.keyword, p)) := by
      rw [heq]
      simp
    obtain ⟨p', -, hp'⟩ := List.mem_map.1 hmem
    cases hp'
    rfl
  · rintro rfl
    cases p <;> decide

theorem read_profile_eq_ok_iff
    (h : Spells (.value v) t)
    {p : Profile} :
    Profile.read (t ++ r) = .ok (p, r') ↔ v.Names p.keyword ∧ r' = r := by
  rw [Profile.read, Json.readChoice_eq_ok_iff h]
  simp [lookup_profile_eq_some_iff]

/-- What is read of one kind is set in its field. -/
theorem set_eq_ok_iff
    {α : Type}
    (make : α → Setting)
    {x : Json.Reading (α × List Char)}
    (hx : ∀ a, x = .ok (a, r') ↔ (make a).IsWrittenAs v ∧ r' = r)
    (hmake : ∀ y : Setting, y.field = f ↔ ∃ a, y = make a) :
    (x >>= fun (a, rest) => .ok (c.set (make a), rest)) = .ok (c', r') ↔
      (∃ y : Setting, y.field = f ∧ y.IsWrittenAs v ∧ c' = c.set y) ∧ r' = r := by
  rw [bind_eq_ok_iff]
  constructor
  · rintro ⟨⟨a, rest⟩, ha, heq⟩
    cases heq
    obtain ⟨hv, hr⟩ := (hx a).1 ha
    exact ⟨⟨make a, (hmake _).2 ⟨a, rfl⟩, hv, rfl⟩, hr⟩
  · rintro ⟨⟨y, hy, hv, rfl⟩, hr⟩
    obtain ⟨a, rfl⟩ := (hmake y).1 hy
    exact ⟨(a, r'), (hx a).2 ⟨hv, hr⟩, rfl⟩

/-- A setting is read where one of its values stands, and nowhere else. -/
theorem readSetting_eq_ok_iff
    (h : Spells (.value v) t)
    (hr : Text.Stops isNumberChar r) :
    c.readSetting f (t ++ r) = .ok (c', r') ↔
      (∃ x : Setting, x.field = f ∧ x.IsWrittenAs v ∧ c' = c.set x) ∧ r' = r := by
  cases f with
  | glslVersion =>
      exact set_eq_ok_iff .glslVersion (fun _ => Json.readNatural32_eq_ok_iff h hr)
        (fun y => by cases y <;> simp [Setting.field])
  | profile =>
      exact set_eq_ok_iff .profile (fun _ => read_profile_eq_ok_iff h)
        (fun y => by cases y <;> simp [Setting.field])
  | sectionComments =>
      exact set_eq_ok_iff .sectionComments (fun _ => Json.readBoolean_eq_ok_iff h)
        (fun y => by cases y <;> simp [Setting.field])

theorem readSetting_skipBlanks
    (c : Config)
    (f : Field)
    (s : List Char) :
    c.readSetting f (skipBlanks s) = c.readSetting f s := by
  cases f with
  | glslVersion => rw [readSetting, readSetting, Json.readNatural32_skipBlanks]
  | profile =>
      rw [readSetting, readSetting, Profile.read, Profile.read, Json.readChoice_skipBlanks]
  | sectionComments => rw [readSetting, readSetting, Json.readBoolean_skipBlanks]

end Settings

section Fields

variable {state : Config × List Field}
variable {seen : List Field}
variable {l : List (String × Json.Value)}

/-- Reads a field behind its key, by the setting that the key stands for. -/
def readKeyed
    (c : Config)
    (seen : List Field)
    (key : String)
    (s : List Char) : Option Field → Json.Reading ((Config × List Field) × List Char)
  | some f =>
      if f ∈ seen then .error (.mismatch (.duplicate key))
      else do
        let s ← Json.readColon s
        let (c, s) ← c.readSetting f s
        pure ((c, f :: seen), s)
  | none => do
      let s ← Json.readColon s
      let s ← Json.skipValue s
      pure ((c, seen), s)

theorem readField_of_readText
    {key : String}
    {s m : List Char}
    (htext : Json.readText s = .ok (key, m)) :
    readField c seen s = readKeyed c seen key m (Field.ofKey? key) := by
  rw [readField, htext]
  rfl

theorem readField_other
    {key : String}
    {s m u b : List Char}
    (hkey : Field.ofKey? key = none)
    (htext : Json.readText s = .ok (key, m))
    (hcolon : Json.readColon m = .ok u)
    (hskip : Json.skipValue u = .ok b) :
    readField c seen s = .ok ((c, seen), b) := by
  rw [readField_of_readText htext, hkey, readKeyed, hcolon]
  show Json.skipValue u >>= _ = _
  rw [hskip]
  rfl

theorem readField_setting
    {s m u : List Char}
    (htext : Json.readText s = .ok (f.key, m))
    (hcolon : Json.readColon m = .ok u) :
    readField c seen s =
      if f ∈ seen then .error (.mismatch (.duplicate f.key))
      else c.readSetting f u >>= fun (c, s) => .ok ((c, f :: seen), s) := by
  rw [readField_of_readText htext, ofKey?_eq_some_iff.2 rfl, readKeyed, hcolon]
  rfl

/-- Reading a field takes it into the settings. -/
theorem readField_eq_ok_iff
    {key : String}
    (h : Spells (.field key v) t) :
    ∃ s b, IsBlanks b ∧ (∀ r, skipBlanks (t ++ r) = '"' :: (s ++ r)) ∧
      ∀ {c seen r state r'}, Text.Stops isNumberChar r →
        (readField c seen (s ++ r) = .ok (state, r') ↔
          Takes (c, seen) (key, v) state ∧ r' = b ++ r) := by
  obtain ⟨s, m, u, hu, hparts⟩ := h.exists_element
  cases hkey : Field.ofKey? key with
  | none =>
      obtain ⟨b, hb, hskip⟩ := Json.skipValue_of_spells hu
      refine ⟨s, b, hb, fun r => (hparts r).1, ?_⟩
      intro c seen r state r' hr
      obtain ⟨-, htext, hcolon⟩ := hparts r
      rw [readField_other hkey htext hcolon (hskip r hr), takes_other (ofKey?_eq_none_iff.1 hkey),
        Except.ok.injEq, Prod.mk.injEq, eq_comm, eq_comm (a := b ++ r)]
  | some f =>
      obtain rfl := ofKey?_eq_some_iff.1 hkey
      obtain ⟨w, b, hw, hb, hvalue⟩ := hu.exists_value
      refine ⟨s, b, hb, fun r => (hparts r).1, ?_⟩
      intro c seen r state r' hr
      obtain ⟨-, htext, hcolon⟩ := hparts r
      have hread : ∀ c', c.readSetting f (u ++ r) = .ok (c', r') ↔
          (∃ x : Setting, x.field = f ∧ x.IsWrittenAs v ∧ c' = c.set x) ∧ r' = b ++ r := by
        intro c'
        rw [← readSetting_skipBlanks, hvalue, readSetting_skipBlanks,
          readSetting_eq_ok_iff hw (Json.stops_of_isBlanks hb hr)]
      rw [readField_setting htext hcolon, takes_setting]
      split
      next hseen => simp [hseen]
      next hseen =>
        rw [bind_eq_ok_iff]
        constructor
        · rintro ⟨⟨c', rest⟩, hc', heq⟩
          cases heq
          obtain ⟨⟨x, hx, hv, rfl⟩, hr'⟩ := (hread c').1 hc'
          exact ⟨⟨hseen, x, hx, hv, rfl⟩, hr'⟩
        · rintro ⟨⟨-, x, hx, hv, rfl⟩, hr'⟩
          exact ⟨(c.set x, r'), (hread _).2 ⟨⟨x, hx, hv, rfl⟩, hr'⟩, rfl⟩

/-- Reading a field and then the others takes all of them. -/
theorem bind_eq_ok_iff_takesAll
    {x : Json.Reading ((Config × List Field) × List Char)}
    {next : (Config × List Field) × List Char → Json.Reading (Config × List Char)}
    {field : String × Json.Value}
    {s : List Char}
    (hfield : ∀ state' s', x = .ok (state', s') ↔ Takes state field state' ∧ s' = s)
    (hnext : ∀ state', next (state', s) = .ok (c, r') ↔ TakesAll state' l c ∧ r' = r) :
    x >>= next = .ok (c, r') ↔ TakesAll state (field :: l) c ∧ r' = r := by
  rw [bind_eq_ok_iff, takesAll_cons]
  constructor
  · rintro ⟨⟨state', s'⟩, hx, hs'⟩
    obtain ⟨htakes, rfl⟩ := (hfield state' s').1 hx
    obtain ⟨hall, hr⟩ := (hnext state').1 hs'
    exact ⟨⟨state', htakes, hall⟩, hr⟩
  · rintro ⟨⟨state', htakes, hall⟩, hr⟩
    exact ⟨(state', s), (hfield state' s).2 ⟨htakes, rfl⟩, (hnext state').2 ⟨hall, hr⟩⟩

/-- Neither further fields nor the end of the object go on with a number. -/
theorem stops_fields
    {u : List Char}
    (hl : Spells (.fields l) u)
    (r : List Char) :
    Text.Stops isNumberChar (u ++ '\x7d' :: r) := by
  cases hl with
  | noFields => exact Text.stops_cons (by decide) _
  | moreFields => exact Text.stops_cons (by decide) _

theorem length_le_of_spells
    {u : List Char}
    (hl : Spells (.fields l) u) :
    l.length ≤ u.length := by
  induction l generalizing u with
  | nil => exact Nat.zero_le _
  | cons field l ih =>
      cases hl with
      | moreFields h hl =>
          have hlength := ih hl
          simp only [List.length_append, List.length_cons]
          omega

theorem readFields_brace
    {b : List Char}
    (hb : IsBlanks b)
    (room : Nat)
    (r : List Char) :
    readFields c seen (room + 1) (b ++ '\x7d' :: r) = .ok (c, r) := by
  rw [readFields, skipBlanks_append hb]
  rfl

/-- Reads a field behind a comma and those that follow it. -/
def readBehindComma
    (c : Config)
    (seen : List Field)
    (room : Nat) : List Char → Json.Reading (Config × List Char)
  | [] => .error .truncated
  | '"' :: s => readField c seen s >>= fun x => readFields x.1.1 x.1.2 room x.2
  | _ => .error .malformed

theorem readFields_comma
    {b : List Char}
    (hb : IsBlanks b)
    (room : Nat)
    (t : List Char) :
    readFields c seen (room + 1) (b ++ ',' :: t) =
      readBehindComma c seen room (skipBlanks t) := by
  rw [readFields, skipBlanks_append hb]
  rfl

/-- Reading the fields of an object up to its end takes them one after the other. -/
theorem readFields_eq_ok_iff
    {b u : List Char}
    {room : Nat}
    (hb : IsBlanks b)
    (hl : Spells (.fields l) u)
    (hroom : l.length < room) :
    readFields c seen room (b ++ (u ++ '\x7d' :: r)) = .ok (c', r') ↔
      TakesAll (c, seen) l c' ∧ r' = r := by
  induction l generalizing b u c seen room with
  | nil =>
      obtain ⟨room, rfl⟩ : ∃ k, room = k + 1 := ⟨room - 1, by omega⟩
      cases hl with
      | noFields =>
          rw [List.nil_append, readFields_brace hb, takesAll_nil, Except.ok.injEq, Prod.mk.injEq,
            eq_comm, eq_comm (a := r)]
  | cons field l ih =>
      obtain ⟨room, rfl⟩ : ∃ k, room = k + 1 := ⟨room - 1, by omega⟩
      cases hl with
      | @moreFields key v l t u h hl =>
          rw [List.length_cons] at hroom
          obtain ⟨s, b', hb', hblanks, hread⟩ := readField_eq_ok_iff h
          have hstops := stops_fields hl r
          rw [List.cons_append, List.cons_append, List.append_assoc,
            readFields_comma hb, hblanks, readBehindComma]
          exact bind_eq_ok_iff_takesAll (fun _ _ => hread hstops)
            (fun _ => ih hb' hl (by omega))

theorem readObject_quote
    {s : List Char}
    (ht : skipBlanks t = '"' :: s) :
    readObject t =
      readField standard [] s >>= fun ((c, seen), s) => readFields c seen (s.length + 1) s := by
  rw [readObject, ht]
  rfl

/-- An object is read as its fields are taken from the start. -/
theorem read_eq_ok_iff
    (h : Spells (.value (.object l)) t) :
    Config.read (t ++ r) = .ok (c, r') ↔ TakesAll (standard, []) l c ∧ r' = r := by
  cases h with
  | @emptyObject b hb =>
      have hread : Config.read ('\x7b' :: (b ++ '\x7d' :: r)) = .ok (standard, r) := by
        show readObject (b ++ '\x7d' :: r) = _
        rw [readObject, skipBlanks_append hb]
        rfl
      simp only [List.append_assoc, List.cons_append, List.nil_append]
      rw [hread, takesAll_nil, Except.ok.injEq, Prod.mk.injEq, eq_comm, eq_comm (a := r)]
  | @object key v l t u h hl =>
      obtain ⟨s, b, hb, hblanks, hread⟩ := readField_eq_ok_iff h
      have hstops := stops_fields hl r
      have hroom : l.length < (b ++ (u ++ '\x7d' :: r)).length + 1 := by
        have hlength := length_le_of_spells hl
        simp only [List.length_append]
        omega
      simp only [List.append_assoc, List.cons_append, List.nil_append]
      show readObject (t ++ (u ++ '\x7d' :: r)) = _ ↔ _
      rw [readObject_quote (hblanks _)]
      exact bind_eq_ok_iff_takesAll (fun _ _ => hread hstops)
        (fun _ => readFields_eq_ok_iff hb hl hroom)

theorem read_skipBlanks
    (s : List Char) :
    Config.read (skipBlanks s) = Config.read s := by
  rw [Config.read, Config.read, Json.skipBlanks_skipBlanks]

/-- The text of an object gives settings if its fields are admissible, and the ones that they
hold. -/
theorem ofJson_eq_ok_iff
    {text : String}
    (h : Spells (.element (.object l)) text.toList) :
    ofJson text = .ok c ↔ Admissible l ∧ c.Holds l := by
  obtain ⟨t, b, ht, hb, hvalue⟩ := h.exists_value
  have hread : ∀ c r', Config.read text.toList = .ok (c, r') ↔
      TakesAll (standard, []) l c ∧ r' = b := by
    intro c r'
    rw [← read_skipBlanks, ← List.append_nil text.toList, hvalue, read_skipBlanks,
      read_eq_ok_iff ht, List.append_nil]
  have hend : (skipBlanks b).isEmpty = true := by
    rw [← List.append_nil b, skipBlanks_append hb]
    rfl
  rw [ofJson, Json.readWhole, bind_eq_ok_iff, ← takesAll_standard_iff]
  constructor
  · rintro ⟨⟨c', r'⟩, hc', heq⟩
    obtain ⟨htakes, rfl⟩ := (hread c' r').1 hc'
    dsimp only at heq
    rw [if_pos hend] at heq
    cases heq
    exact htakes
  · intro htakes
    refine ⟨(c, b), (hread c b).2 ⟨htakes, rfl⟩, ?_⟩
    dsimp only
    rw [if_pos hend]
    rfl

end Fields

section Writing

/-- The value as which a setting is written. -/
def Setting.value : Setting → Json.Value
  | glslVersion n => .number (Nat.toDigits 10 n.toNat)
  | profile p => .text p.keyword
  | sectionComments b => .boolean b

theorem Setting.isWrittenAs_value
    (x : Setting) :
    x.IsWrittenAs x.value := by
  cases x with
  | glslVersion | sectionComments => rfl
  | profile => exact Or.inl rfl

theorem isBlanks_nil :
    IsBlanks [] :=
  List.forall_mem_nil _

/-- Characters that are written as they are. -/
def isPlain
    (c : Char) : Bool :=
  c ≠ '"' && c ≠ '\\' && ' ' ≤ c

theorem spellsText_self
    {s : List Char}
    (h : s.all isPlain = true) :
    Json.SpellsText s s := by
  induction s with
  | nil => exact .nil
  | cons c s ih =>
      rw [List.all_cons, Bool.and_eq_true] at h
      obtain ⟨hc, hs⟩ := h
      simp only [isPlain, Bool.and_eq_true, decide_eq_true_eq] at hc
      exact .plain hc.1.1 hc.1.2 hc.2 (ih hs)

theorem spellsText_key
    (f : Field) :
    Json.SpellsText f.key.toList f.key.toList := by
  refine spellsText_self ?_
  cases f <;> decide

theorem spellsText_keyword
    (p : Profile) :
    Json.SpellsText p.keyword.toList p.keyword.toList := by
  refine spellsText_self ?_
  cases p <;> decide

theorem toList_writeName
    (name : String) :
    (writeName name).toList = '"' :: name.toList ++ ['"'] := by
  rw [writeName, String.toList_append, String.toList_append]
  rfl

theorem isNumber_toDigits
    (n : Nat) :
    Json.IsNumber (Nat.toDigits 10 n) := by
  have h := Json.IsNumber.mk List.mem_cons_self n .absent .absent
  rwa [List.nil_append, List.append_nil, List.append_nil] at h

/-- Each setting is written as its value. -/
theorem spells_valueToJson
    (c : Config)
    (f : Field) :
    Spells (.value (c.setting f).value) (c.valueToJson f).toList := by
  cases f with
  | glslVersion =>
      show Spells (.value (.number _)) (toString c.glslVersion.toNat).toList
      rw [Text.toList_decimal]
      exact .number (isNumber_toDigits _)
  | profile =>
      show Spells (.value (.text _)) (writeName c.profile.keyword).toList
      rw [toList_writeName]
      exact .text (spellsText_keyword c.profile)
  | sectionComments =>
      show Spells (.value (.boolean _)) (if c.sectionComments then "true" else "false").toList
      cases c.sectionComments with
      | true => exact .boolean true
      | false => exact .boolean false

/-- Each field is written without blanks. -/
theorem spells_written_field
    (c : Config)
    (f : Field) :
    Spells (.field f.key (c.setting f).value)
      (writeName f.key ++ ":" ++ c.valueToJson f).toList := by
  have h := Spells.field isBlanks_nil (spellsText_key f) isBlanks_nil
    (.element isBlanks_nil (spells_valueToJson c f) isBlanks_nil)
  rw [String.toList_append, String.toList_append, toList_writeName]
  simpa using h

/-- Settings are written as an object with a field for each. -/
theorem spells_toJson
    (c : Config) :
    Spells (.element (.object (Field.all.map (fun f => (f.key, (c.setting f).value)))))
      c.toJson.toList := by
  have h := Spells.element isBlanks_nil (.object (spells_written_field c .glslVersion)
    (.moreFields (spells_written_field c .profile)
      (.moreFields (spells_written_field c .sectionComments) .noFields))) isBlanks_nil
  have htext : c.toJson = "\x7b" ++ ((writeName Field.glslVersion.key ++ ":" ++
      c.valueToJson .glslVersion) ++ "," ++ (writeName Field.profile.key ++ ":" ++
        c.valueToJson .profile) ++ "," ++ (writeName Field.sectionComments.key ++ ":" ++
          c.valueToJson .sectionComments)) ++ "\x7d" := rfl
  rw [htext]
  simp only [String.toList_append] at h ⊢
  simpa [Field.all] using h

/-- Written settings are read back. -/
theorem ofJson_toJson
    (c : Config) :
    ofJson c.toJson = .ok c := by
  have hkeys : (Field.all.map (fun f => (f.key, (c.setting f).value))).map Prod.fst =
      Field.all.map Field.key := by
    rw [List.map_map]
    rfl
  have hgiven : ∀ (f : Field) (v : Json.Value),
      (f.key, v) ∈ Field.all.map (fun f => (f.key, (c.setting f).value)) →
        (c.setting f).IsWrittenAs v := by
    intro f v hv
    obtain ⟨g, -, hg⟩ := List.mem_map.1 hv
    obtain ⟨hkey, rfl⟩ := Prod.mk.inj hg
    rw [key_injective hkey]
    exact (c.setting f).isWrittenAs_value
  refine (ofJson_eq_ok_iff (spells_toJson c)).2 ⟨⟨?_, ?_⟩, hgiven, ?_⟩
  · intro f
    rw [hkeys]
    cases f <;> decide
  · exact fun f v hv => ⟨c.setting f, field_setting c f, hgiven f v hv⟩
  · intro f hf
    rw [hkeys] at hf
    cases f <;> exact absurd (by decide) hf

end Writing

/-- The text of an object gives settings if and only if no field of a setting occurs twice and each
one that there is has a value that stands for a setting.  The settings are the given ones, and the
standard ones where there is no field: neither the order of the fields nor fields with other names
matter.  Written settings are read back. -/
theorem ofJson_determined_by_fields :
    (∀ (text : String) (l : List (String × Json.Value)),
      Spells (.element (.object l)) text.toList →
        ((∃ c, ofJson text = .ok c) ↔ Admissible l) ∧
          ∀ c, ofJson text = .ok c → c.Holds l) ∧
      (∀ (text text' : String) (l l' : List (String × Json.Value)),
        Spells (.element (.object l)) text.toList →
          Spells (.element (.object l')) text'.toList →
            (known l).Perm (known l') → ∀ c, ofJson text = .ok c ↔ ofJson text' = .ok c) ∧
        ∀ c : Config, ofJson c.toJson = .ok c := by
  refine ⟨?_, ?_, ofJson_toJson⟩
  · intro text l h
    refine ⟨⟨?_, ?_⟩, fun c hc => ((ofJson_eq_ok_iff h).1 hc).2⟩
    · rintro ⟨c, hc⟩
      exact ((ofJson_eq_ok_iff h).1 hc).1
    · intro hl
      obtain ⟨c, hc⟩ := exists_takesAll (c := standard) (List.forall_mem_nil _) hl
      exact ⟨c, (ofJson_eq_ok_iff h).2 (takesAll_standard_iff.1 hc)⟩
  · intro text text' l l' h h' hperm c
    rw [ofJson_eq_ok_iff h, ofJson_eq_ok_iff h']
    constructor
    · rintro ⟨hl, hc⟩
      exact ⟨hl.congr hperm, hc.congr hperm⟩
    · rintro ⟨hl, hc⟩
      exact ⟨hl.congr hperm.symm, hc.congr hperm.symm⟩

section Sample

/-- An escape in a key, a profile as the key of nothing, and a field with another name that holds
what looks like a setting. -/
def sampleText : String :=
  "\x7b \"section_comments\" : false ,\n\"other\":[-1.5e3, \x7b\"profile\":null\x7d]," ++
    "\"gl\\u0073l_version\":460,\"profile\": \x7b\"es\":null\x7d\x7d"

def sampleFields : List (String × Json.Value) :=
  [("section_comments", .boolean false),
    ("other", .sequence [.number ['-', '1', '.', '5', 'e', '3'], .object [("profile", .null)]]),
    ("glsl_version", .number ['4', '6', '0']), ("profile", .object [("es", .null)])]

/-- The settings in it, in another order. -/
def reorderedText : String :=
  "\x7b\"profile\":\x7b\"es\":null\x7d,\"glsl_version\":460,\"section_comments\":false\x7d"

def reorderedFields : List (String × Json.Value) :=
  [("profile", .object [("es", .null)]), ("glsl_version", .number ['4', '6', '0']),
    ("section_comments", .boolean false)]

def sampleConfig : Config := ⟨460, .es, false⟩

theorem spells_profile_null :
    Spells (.value (.object [("profile", .null)])) "\x7b\"profile\":null\x7d".toList :=
  .object (.field isBlanks_nil (spellsText_key .profile) isBlanks_nil
    (.element isBlanks_nil .null isBlanks_nil)) .noFields

theorem spells_es_null :
    Spells (.value (.object [("es", .null)])) "\x7b\"es\":null\x7d".toList :=
  .object (.field isBlanks_nil (spellsText_keyword .es) isBlanks_nil
    (.element isBlanks_nil .null isBlanks_nil)) .noFields

theorem spells_460 :
    Spells (.element (.number ['4', '6', '0'])) "460".toList :=
  .element isBlanks_nil (.number (isNumber_toDigits 460)) isBlanks_nil

theorem spells_sampleText :
    Spells (.element (.object sampleFields)) sampleText.toList := by
  have hblank : IsBlanks [' '] := by decide
  have hcomments : Spells (.field "section_comments" (.boolean false))
      " \"section_comments\" : false ".toList :=
    .field hblank (spellsText_key .sectionComments) hblank
      (.element hblank (.boolean false) hblank)
  have hline : IsBlanks ['\n'] := by decide
  have hkey : Json.SpellsText "other".toList "other".toList := spellsText_self (by decide)
  have hnumber : Json.IsNumber ['-', '1', '.', '5', 'e', '3'] :=
    @Json.IsNumber.mk ['-'] ['.', '5'] ['e', '3'] (by decide) 1 (.present (by decide))
      (@Json.IsExponent.present 'e' [] ['3'] (Or.inl rfl) (by decide) (by decide))
  have hother : Spells (.field "other" (.sequence [.number ['-', '1', '.', '5', 'e', '3'],
      .object [("profile", .null)]])) "\n\"other\":[-1.5e3, \x7b\"profile\":null\x7d]".toList :=
    .field hline hkey isBlanks_nil (.element isBlanks_nil
      (.sequence (.element isBlanks_nil (.number hnumber) isBlanks_nil)
        (.moreElements (.element hblank spells_profile_null isBlanks_nil) .noElements))
      isBlanks_nil)
  have hescape : Json.SpellsUnit ['0', '0', '7', '3'] 's'.toNat :=
    @Json.SpellsUnit.mk '0' '0' '7' '3' 0 0 7 3 (by decide) (by decide) (by decide) (by decide)
  have hrest : Json.SpellsText "l_version".toList "l_version".toList :=
    spellsText_self (by decide)
  have hversionKey : Json.SpellsText "gl\\u0073l_version".toList "glsl_version".toList :=
    .plain (by decide) (by decide) (by decide)
      (.plain (by decide) (by decide) (by decide) (.unit hescape hrest))
  have hversion : Spells (.field "glsl_version" (.number ['4', '6', '0']))
      "\"gl\\u0073l_version\":460".toList :=
    .field isBlanks_nil hversionKey isBlanks_nil spells_460
  have hprofile : Spells (.field "profile" (.object [("es", .null)]))
      "\"profile\": \x7b\"es\":null\x7d".toList :=
    .field isBlanks_nil (spellsText_key .profile) isBlanks_nil
      (.element hblank spells_es_null isBlanks_nil)
  exact .element isBlanks_nil (.object hcomments (.moreFields hother
    (.moreFields hversion (.moreFields hprofile .noFields)))) isBlanks_nil

theorem spells_reorderedText :
    Spells (.element (.object reorderedFields)) reorderedText.toList := by
  have hprofile : Spells (.field "profile" (.object [("es", .null)]))
      "\"profile\":\x7b\"es\":null\x7d".toList :=
    .field isBlanks_nil (spellsText_key .profile) isBlanks_nil
      (.element isBlanks_nil spells_es_null isBlanks_nil)
  have hversion : Spells (.field "glsl_version" (.number ['4', '6', '0']))
      "\"glsl_version\":460".toList :=
    .field isBlanks_nil (spellsText_key .glslVersion) isBlanks_nil spells_460
  have hcomments : Spells (.field "section_comments" (.boolean false))
      "\"section_comments\":false".toList :=
    .field isBlanks_nil (spellsText_key .sectionComments) isBlanks_nil
      (.element isBlanks_nil (.boolean false) isBlanks_nil)
  exact .element isBlanks_nil (.object hprofile (.moreFields hversion
    (.moreFields hcomments .noFields))) isBlanks_nil

theorem sampleConfig_holds :
    sampleConfig.Holds sampleFields where
  given := by
    intro f v hv
    cases f with
    | glslVersion =>
        obtain rfl : v = .number ['4', '6', '0'] := by simpa [sampleFields, Field.key] using hv
        rfl
    | profile =>
        obtain rfl : v = .object [("es", .null)] := by simpa [sampleFields, Field.key] using hv
        exact Or.inr rfl
    | sectionComments =>
        obtain rfl : v = .boolean false := by simpa [sampleFields, Field.key] using hv
        rfl
  absent := by
    intro f hf
    cases f <;> exact absurd (by decide) hf

/-- Both texts give the settings of the first one. -/
theorem ofJson_determined_by_sample_fields :
    Spells (.element (.object sampleFields)) sampleText.toList ∧
      Spells (.element (.object reorderedFields)) reorderedText.toList ∧
        (known sampleFields).Perm (known reorderedFields) ∧
          ofJson sampleText = .ok sampleConfig ∧ ofJson reorderedText = .ok sampleConfig ∧
            ofJson sampleConfig.toJson = .ok sampleConfig := by
  obtain ⟨hgives, horder, hwritten⟩ := ofJson_determined_by_fields
  have hreverse : known sampleFields = (known reorderedFields).reverse := rfl
  have hperm : (known sampleFields).Perm (known reorderedFields) := by
    rw [hreverse]
    exact List.reverse_perm _
  have hadmissible : Admissible sampleFields := by
    refine ⟨fun f => by cases f <;> decide, ?_⟩
    exact fun f v hv => ⟨sampleConfig.setting f, field_setting _ f, sampleConfig_holds.given f v hv⟩
  obtain ⟨hsucceeds, hholds⟩ := hgives sampleText sampleFields spells_sampleText
  obtain ⟨c, hc⟩ := hsucceeds.2 hadmissible
  obtain rfl := (hholds c hc).unique sampleConfig_holds
  have hc' := (horder sampleText reorderedText sampleFields reorderedFields spells_sampleText
    spells_reorderedText hperm sampleConfig).1 hc
  exact ⟨spells_sampleText, spells_reorderedText, hperm, hc, hc', hwritten sampleConfig⟩

end Sample

end Config
end StageInterface
