import StageInterface.Proofs.Text.Delimited
import StageInterface.Rendering

/-!
# Outlines of declarations

What the text of a declaration shows of it: a structure with its members, a
stage variable with its direction, or a block with its qualifiers and the keyword
of its kind.  The keys of members and the structures that a block brings along
are not shown, nor is the extent of a block without an instance name.

When all names are words, the outline can be told from the text, whatever text
follows.  Interpolation and qualifiers are optional words, so it is the number of
words in front of a name that tells where each of them stands.

**Results.**
* `declarator_append_inj`: a name with words in front and an extent behind it.
* `Outline.legible`: the outline of any declaration.
-/

namespace StageInterface

/-- The lexeme is a word of letters, digits and underscores. -/
def Lexeme.IsWord
    (l : Lexeme) : Prop :=
  Text.IsWord l.text

instance (l : Lexeme) : Decidable l.IsWord :=
  inferInstanceAs (Decidable (Text.IsWord l.text))

/-- The word of a lexeme, or none if it is absent. -/
def Lexeme.words
    (l : Lexeme) : List String :=
  l.present?.toList.map Lexeme.text

theorem Lexeme.words_absent :
    absent.words = [] :=
  rfl

theorem Lexeme.words_of_ne_absent
    {l : Lexeme}
    (h : l ≠ absent) :
    l.words = [l.text] := by
  rw [words, present?_eq_some_iff.2 ⟨rfl, h⟩]
  rfl

theorem Lexeme.words_injective :
    Function.Injective Lexeme.words := by
  intro l m h
  by_cases hl : l = absent
  · by_cases hm : m = absent
    · rw [hl, hm]
    · rw [hl, words_absent, words_of_ne_absent hm] at h
      cases h
  · by_cases hm : m = absent
    · rw [hm, words_absent, words_of_ne_absent hl] at h
      cases h
    · rw [words_of_ne_absent hl, words_of_ne_absent hm] at h
      exact ext_iff.2 (List.cons.inj h).1

section Declarator

/-- An extent can be told from what follows it, up to the end of its line. -/
theorem Extent.suffix_append_inj
    {e e' : Extent}
    {r r' : List Char}
    (h : e.suffix.toList ++ ';' :: r = e'.suffix.toList ++ ';' :: r') :
    e = e' ∧ r = r' := by
  have hbracket : ∀ s : List Char, Text.Stops Char.isDigit (']' :: s) :=
    Text.stops_cons (by decide)
  -- Digits stand between the brackets of one and not of the other.
  have hdigits : ∀ (n : Nat) (s s' : List Char), (toString n).toList ++ ']' :: s ≠ ']' :: s' := by
    intro n s s' h
    rw [Text.toList_decimal] at h
    have hnone : ∀ c ∈ ([] : List Char), Char.isDigit c = true := List.forall_mem_nil _
    obtain ⟨hnil, -⟩ := Text.append_inj_of_stops
      (fun c hc => Nat.isDigit_of_mem_toDigits (by decide) (by decide) hc) hnone
      (hbracket s) (hbracket s') h
    exact Nat.toDigits_ne_nil hnil
  cases e with
  | single =>
      cases e' with
      | single => exact ⟨rfl, by simpa [suffix] using h⟩
      | fixed n hn => simp [suffix] at h
      | runtime => simp [suffix] at h
  | fixed m hm =>
      cases e' with
      | single => simp [suffix] at h
      | fixed n hn =>
          simp only [suffix, String.toList_append, List.append_assoc] at h
          obtain ⟨hmn, hrest⟩ := Text.decimal_append_inj (hbracket _) (hbracket _)
            (List.append_cancel_left h)
          obtain rfl := UInt32.toNat_inj.1 hmn
          exact ⟨rfl, by simpa using hrest⟩
      | runtime =>
          simp only [suffix, String.toList_append, List.append_assoc] at h
          exact absurd (List.cons.inj h).2 (hdigits _ _ _)
  | runtime =>
      cases e' with
      | single => simp [suffix] at h
      | fixed n hn =>
          simp only [suffix, String.toList_append, List.append_assoc] at h
          exact absurd (List.cons.inj h).2.symm (hdigits _ _ _)
      | runtime => exact ⟨rfl, by simpa [suffix] using h⟩

theorem Extent.stops_suffix
    (e : Extent)
    (r : List Char) :
    Text.Stops Text.isPhraseChar (e.suffix.toList ++ ';' :: r) := by
  cases e with
  | single => exact Text.stops_cons (by decide) r
  | fixed n hn =>
      simp only [suffix, String.toList_append, List.append_assoc]
      exact Text.stops_cons (by decide) _
  | runtime => exact Text.stops_cons (by decide) _

/-- A name with words in front of it and its extent behind it, to the end of the line. -/
def declarator
    (words : List String)
    (name : Lexeme)
    (e : Extent) : List Char :=
  Text.spaced words ++ (name.text.toList ++ (e.suffix.toList ++ [';', '\n']))

theorem declarator_append_inj
    {words words' : List String}
    {name name' : Lexeme}
    {e e' : Extent}
    {r r' : List Char}
    (hwords : ∀ w ∈ words, Text.IsWord w)
    (hwords' : ∀ w ∈ words', Text.IsWord w)
    (hname : name.IsWord)
    (hname' : name'.IsWord)
    (h : declarator words name e ++ r = declarator words' name' e' ++ r') :
    words = words' ∧ name = name' ∧ e = e' ∧ r = r' := by
  simp only [declarator, List.append_assoc, List.cons_append, List.nil_append] at h
  obtain ⟨hw, hn, hrest⟩ := Text.phrase_append_inj hwords hwords' hname hname'
    (e.stops_suffix _) (e'.stops_suffix _) h
  obtain ⟨he, hline⟩ := Extent.suffix_append_inj hrest
  exact ⟨hw, Lexeme.ext_iff.2 hn, he, (List.cons.inj hline).2⟩

end Declarator

section Members

/-- The type and the name of the member are words. -/
def Member.IsSpelled
    (m : Member) : Prop :=
  m.type.IsWord ∧ m.name.IsWord

instance (m : Member) : Decidable m.IsSpelled :=
  inferInstanceAs (Decidable (m.type.IsWord ∧ m.name.IsWord))

theorem Member.toList_source
    (m : Member) :
    m.source.toList = declarator [m.type.text] m.name m.extent := by
  simp [source, declarator, Text.spaced]

/-- The lines of members inside braces. -/
def memberLines
    (members : List Member) : List Char :=
  members.flatMap (fun m => '\t' :: m.source.toList)

theorem Members.toList_source
    (members : Members) :
    members.source.toList = memberLines members.values := by
  simp [Members.source, memberLines, List.flatMap_map]

theorem Member.legible :
    Text.Legible Member.IsSpelled (fun m => '\t' :: m.source.toList) (fun c => c = '\t') where
  append_inj := by
    intro m n r s hm hn h
    rw [List.cons_append, List.cons_append, List.cons.injEq, toList_source, toList_source] at h
    obtain ⟨htype, hname, hextent, hrest⟩ := declarator_append_inj
      (List.forall_mem_singleton.2 hm.1) (List.forall_mem_singleton.2 hn.1) hm.2 hn.2 h.2
    have htype' : m.type = n.type := Lexeme.ext_iff.2 (List.cons.inj htype).1
    obtain ⟨_, _, _⟩ := m
    obtain ⟨_, _, _⟩ := n
    dsimp only at htype' hname hextent
    exact ⟨by rw [htype', hname, hextent], hrest⟩
  exists_mark := fun m _ => ⟨'\t', m.source.toList, rfl, by decide⟩

end Members

/-- What the text of a block shows. -/
structure BlockOutline where
  policy : Policy
  set : UInt32
  binding : UInt32
  name : Lexeme
  members : List Member
  /-- The instance name with its extent, if there is one. -/
  instanceName? : Option (Lexeme × Extent)

/-- What the text of a declaration shows. -/
inductive Outline
  | struct (name : Lexeme) (members : List Member)
  | stageVariable (v : StageVariable) (direction : String)
  | block (b : BlockOutline) (qualifiers : List String) (keyword : String)

def Structure.outline
    (s : Structure) : Outline :=
  .struct s.name s.members.values

def StageInput.outline
    (i : StageInput) : Outline :=
  .stageVariable i.toStageVariable "in"

def StageOutput.outline
    (o : StageOutput) : Outline :=
  .stageVariable o.toStageVariable "out"

def Block.outline
    (b : Block) : BlockOutline where
  policy := b.policy
  set := b.set
  binding := b.binding
  name := b.name
  members := b.members.values
  instanceName? := b.instanceName.present?.map (fun name => (name, b.extent))

def UniformBlock.outline
    (b : UniformBlock) : Outline :=
  .block b.toBlock.outline [] "uniform"

def StorageBlock.outline
    (b : StorageBlock) : Outline :=
  .block b.toBlock.outline b.qualifiers.keywords "buffer"

/-- What closes a block: the instance name with its extent, if there is one. -/
def closing : Option (Lexeme × Extent) → List Char
  | some (name, e) => '}' :: ' ' :: declarator [] name e
  | none => ['}', ';', '\n']

/-- The words that may stand in front of the type of a stage variable, and the type. -/
def StageVariable.words
    (v : StageVariable)
    (direction : String) : List String :=
  v.interpolation.words ++ [direction, v.type.text]

namespace Outline

/-- The text of a declaration with the given outline. -/
def write : Outline → List Char
  | struct name members =>
      Text.spaced ["struct"] ++ (name.text.toList ++
        ('\n' :: '{' :: '\n' :: (memberLines members ++ closing none)))
  | stageVariable v direction =>
      "layout (location = ".toList ++ ((toString v.location.toNat).toList ++
        (')' :: ' ' :: declarator (v.words direction) v.name v.extent))
  | block b qualifiers keyword =>
      "layout (".toList ++ (b.policy.keyword.toList ++
        (", set = ".toList ++ ((toString b.set.toNat).toList ++
        (", binding = ".toList ++ ((toString b.binding.toNat).toList ++
        (')' :: ' ' :: (Text.spaced (qualifiers ++ [keyword]) ++ (b.name.text.toList ++
        ('\n' :: '{' :: '\n' :: (memberLines b.members ++ closing b.instanceName?))))))))))

end Outline

theorem Structure.toList_source
    (s : Structure) :
    s.source.toList = s.outline.write := by
  unfold outline Outline.write
  simp [source, closing, Text.spaced, Members.toList_source]

theorem StageVariable.toList_directedSource
    (v : StageVariable)
    (direction : String) :
    (v.directedSource direction).toList = (Outline.stageVariable v direction).write := by
  have hinterpolation :
      v.interpolationSource.toList = Text.spaced v.interpolation.words := by
    rw [interpolationSource, Lexeme.words]
    cases v.interpolation.present? <;> simp [Text.spaced]
  have hwords : Text.spaced (v.words direction) =
      Text.spaced v.interpolation.words ++
        (direction.toList ++ ' ' :: (v.type.text.toList ++ [' '])) := by
    simp [StageVariable.words, Text.spaced]
  unfold directedSource Outline.write
  simp [declarator, hinterpolation, hwords]

theorem Block.toList_bodySource
    (b : Block)
    (qualifiers : List String)
    (keyword : String) :
    (b.bodySource qualifiers keyword).toList =
      (Outline.block b.outline qualifiers keyword).write := by
  have hqualifiers : (String.join (qualifiers.map (· ++ " "))).toList = Text.spaced qualifiers := by
    simp [Text.spaced, List.flatMap_map]
  have hwords : Text.spaced (qualifiers ++ [keyword]) =
      Text.spaced qualifiers ++ (keyword.toList ++ [' ']) := by
    simp [Text.spaced]
  have hclosing : b.closingSource.toList = closing b.outline.instanceName? := by
    rw [closingSource, Block.outline]
    cases b.instanceName.present? <;> simp [closing, declarator, Text.spaced]
  unfold bodySource addressSource Outline.write
  simp only [String.toList_append, hqualifiers, hwords, hclosing, Members.toList_source,
    List.append_assoc, List.cons_append, List.nil_append]
  rfl

theorem StageInput.toList_source
    (i : StageInput) :
    i.source.toList = i.outline.write :=
  i.toList_directedSource "in"

theorem StageOutput.toList_source
    (o : StageOutput) :
    o.source.toList = o.outline.write :=
  o.toList_directedSource "out"

theorem UniformBlock.toList_source
    (b : UniformBlock) :
    b.source.toList = b.outline.write :=
  b.toList_bodySource [] "uniform"

theorem StorageBlock.toList_source
    (b : StorageBlock) :
    b.source.toList = b.outline.write :=
  b.toList_bodySource b.qualifiers.keywords "buffer"

section Legibility

/-- The type and the name of the stage variable are words, and its interpolation if there is
one. -/
structure StageVariable.IsSpelled
    (v : StageVariable) : Prop where
  type : v.type.IsWord
  name : v.name.IsWord
  interpolation : v.interpolation ≠ .absent → v.interpolation.IsWord

instance (v : StageVariable) : Decidable v.IsSpelled :=
  decidable_of_iff
    (v.type.IsWord ∧ v.name.IsWord ∧ (v.interpolation ≠ .absent → v.interpolation.IsWord))
    ⟨fun h => ⟨h.1, h.2.1, h.2.2⟩, fun h => ⟨h.type, h.name, h.interpolation⟩⟩

/-- Everything that the outline calls by name is called by a word. -/
def Outline.IsSpelled : Outline → Prop
  | struct name members => name.IsWord ∧ ∀ m ∈ members, m.IsSpelled
  | stageVariable v direction => v.IsSpelled ∧ Text.IsWord direction
  | block b qualifiers keyword =>
      b.name.IsWord ∧ (∀ m ∈ b.members, m.IsSpelled) ∧
        (∀ e ∈ b.instanceName?, e.1.IsWord) ∧
        (∀ w ∈ qualifiers, Text.IsWord w) ∧ Text.IsWord keyword

theorem StageVariable.IsSpelled.words
    {v : StageVariable}
    (hv : v.IsSpelled)
    {direction : String}
    (hdirection : Text.IsWord direction) :
    ∀ w ∈ v.words direction, Text.IsWord w := by
  intro w hw
  rcases List.mem_append.1 hw with hinterpolation | hlast
  · by_cases habsent : v.interpolation = .absent
    · rw [habsent, Lexeme.words_absent] at hinterpolation
      cases hinterpolation
    · rw [Lexeme.words_of_ne_absent habsent, List.mem_singleton] at hinterpolation
      rw [hinterpolation]
      exact hv.interpolation habsent
  · rcases List.mem_pair.1 hlast with rfl | rfl
    · exact hdirection
    · exact hv.type

/-- The words in front of the name tell the interpolation, the direction and the type. -/
theorem StageVariable.words_inj
    {v v' : StageVariable}
    {direction direction' : String}
    (h : v.words direction = v'.words direction') :
    v.interpolation = v'.interpolation ∧ direction = direction' ∧ v.type = v'.type := by
  obtain ⟨hinterpolation, hlast⟩ := List.append_inj' h rfl
  rw [List.cons.injEq, List.cons.injEq] at hlast
  exact ⟨Lexeme.words_injective hinterpolation, hlast.1, Lexeme.ext_iff.2 hlast.2.1⟩

theorem Policy.isWord_keyword
    (p : Policy) :
    Text.IsWord p.keyword := by
  cases p <;> decide

theorem Policy.keyword_injective :
    Function.Injective Policy.keyword := by
  intro p q h
  have hread := congrArg Policy.ofKeyword? h
  rw [Policy.ofKeyword?_keyword, Policy.ofKeyword?_keyword] at hread
  exact Option.some.inj hread

theorem stops_closing
    (instanceName? : Option (Lexeme × Extent))
    (r : List Char) :
    Text.Stops (fun c => c = '\t') (closing instanceName? ++ r) := by
  cases instanceName? <;> exact Text.stops_cons (by decide) _

theorem closing_append_inj
    {instanceName? instanceName?' : Option (Lexeme × Extent)}
    {r r' : List Char}
    (hname : ∀ e ∈ instanceName?, e.1.IsWord)
    (hname' : ∀ e ∈ instanceName?', e.1.IsWord)
    (h : closing instanceName? ++ r = closing instanceName?' ++ r') :
    instanceName? = instanceName?' ∧ r = r' := by
  cases instanceName? with
  | none =>
      cases instanceName?' with
      | none => exact ⟨rfl, List.append_cancel_left h⟩
      | some e => simp [closing] at h
  | some e =>
      cases instanceName?' with
      | none => simp [closing] at h
      | some e' =>
          obtain ⟨-, hnames, hextents, hrest⟩ := declarator_append_inj (by simp) (by simp)
            (hname e rfl) (hname' e' rfl) (List.cons.inj (List.cons.inj h).2).2
          exact ⟨congrArg some (Prod.ext hnames hextents), hrest⟩

/-- Members in braces can be told from what closes the braces and follows them. -/
theorem braces_append_inj
    {members members' : List Member}
    {instanceName? instanceName?' : Option (Lexeme × Extent)}
    {r r' : List Char}
    (hmembers : ∀ m ∈ members, m.IsSpelled)
    (hmembers' : ∀ m ∈ members', m.IsSpelled)
    (hname : ∀ e ∈ instanceName?, e.1.IsWord)
    (hname' : ∀ e ∈ instanceName?', e.1.IsWord)
    (h : '\n' :: '{' :: '\n' :: (memberLines members ++ (closing instanceName? ++ r)) =
      '\n' :: '{' :: '\n' :: (memberLines members' ++ (closing instanceName?' ++ r'))) :
    members = members' ∧ instanceName? = instanceName?' ∧ r = r' := by
  simp only [List.cons.injEq, true_and] at h
  obtain ⟨hlines, hclosing⟩ := Member.legible.flatMap_append_inj hmembers hmembers'
    (stops_closing instanceName? r) (stops_closing instanceName?' r') h
  exact ⟨hlines, closing_append_inj hname hname' hclosing⟩

theorem stops_braces
    (s : List Char) :
    Text.Stops Text.isPhraseChar ('\n' :: s) :=
  Text.stops_cons (by decide) s

namespace Outline

theorem write_struct_append_inj
    {name name' : Lexeme}
    {members members' : List Member}
    {r r' : List Char}
    (hs : (struct name members).IsSpelled)
    (hs' : (struct name' members').IsSpelled)
    (h : (struct name members).write ++ r = (struct name' members').write ++ r') :
    struct name members = struct name' members' ∧ r = r' := by
  have hstruct : ∀ w ∈ ["struct"], Text.IsWord w := by decide
  unfold write at h
  simp only [List.append_assoc, List.cons_append] at h
  obtain ⟨-, hname, hbraces⟩ := Text.phrase_append_inj hstruct hstruct hs.1 hs'.1
    (stops_braces _) (stops_braces _) h
  obtain ⟨rfl, -, rfl⟩ := braces_append_inj hs.2 hs'.2 (by simp) (by simp) hbraces
  exact ⟨by rw [Lexeme.ext_iff.2 hname], rfl⟩

theorem write_stageVariable_append_inj
    {v v' : StageVariable}
    {direction direction' : String}
    {r r' : List Char}
    (hv : (stageVariable v direction).IsSpelled)
    (hv' : (stageVariable v' direction').IsSpelled)
    (h : (stageVariable v direction).write ++ r = (stageVariable v' direction').write ++ r') :
    stageVariable v direction = stageVariable v' direction' ∧ r = r' := by
  have hstops : ∀ s : List Char, Text.Stops Char.isDigit (')' :: s) :=
    Text.stops_cons (by decide)
  unfold write at h
  simp only [List.append_assoc, List.cons_append] at h
  obtain ⟨hlocation, hrest⟩ := Text.decimal_append_inj (hstops _) (hstops _)
    (List.append_cancel_left h)
  obtain ⟨hwords, hname, hextent, rfl⟩ := declarator_append_inj (hv.1.words hv.2)
    (hv'.1.words hv'.2) hv.1.name hv'.1.name (List.cons.inj (List.cons.inj hrest).2).2
  obtain ⟨hinterpolation, rfl, htype⟩ := StageVariable.words_inj hwords
  obtain ⟨_, _, _, _, _⟩ := v
  obtain ⟨_, _, _, _, _⟩ := v'
  dsimp only at hlocation htype hname hinterpolation hextent
  obtain rfl := UInt32.toNat_inj.1 hlocation
  exact ⟨by rw [htype, hname, hinterpolation, hextent], rfl⟩

theorem write_block_append_inj
    {b b' : BlockOutline}
    {qualifiers qualifiers' : List String}
    {keyword keyword' : String}
    {r r' : List Char}
    (hb : (block b qualifiers keyword).IsSpelled)
    (hb' : (block b' qualifiers' keyword').IsSpelled)
    (h : (block b qualifiers keyword).write ++ r = (block b' qualifiers' keyword').write ++ r') :
    block b qualifiers keyword = block b' qualifiers' keyword' ∧ r = r' := by
  have hstops : ∀ s : List Char, Text.Stops Char.isDigit (')' :: s) :=
    Text.stops_cons (by decide)
  have hcomma : ∀ s : List Char, Text.Stops Char.isDigit (", binding = ".toList ++ s) :=
    fun _ => Text.stops_cons (by decide) _
  have hcomma' : ∀ s : List Char, Text.Stops Text.isWordChar (", set = ".toList ++ s) :=
    fun _ => Text.stops_cons (by decide) _
  have hwords : ∀ {qualifiers : List String} {keyword : String},
      (∀ w ∈ qualifiers, Text.IsWord w) → Text.IsWord keyword →
        ∀ w ∈ qualifiers ++ [keyword], Text.IsWord w := by
    intro qualifiers keyword hq hk w hw
    rcases List.mem_append.1 hw with hmem | hmem
    · exact hq w hmem
    · exact List.mem_singleton.1 hmem ▸ hk
  obtain ⟨hname, hmembers, hinstance, hqualifiers, hkeyword⟩ := hb
  obtain ⟨hname', hmembers', hinstance', hqualifiers', hkeyword'⟩ := hb'
  unfold write at h
  simp only [List.append_assoc, List.cons_append] at h
  obtain ⟨hpolicy, h⟩ := Text.append_inj_of_stops b.policy.isWord_keyword.2
    b'.policy.isWord_keyword.2 (hcomma' _) (hcomma' _) (List.append_cancel_left h)
  obtain ⟨hset, h⟩ := Text.decimal_append_inj (hcomma _) (hcomma _) (List.append_cancel_left h)
  obtain ⟨hbinding, h⟩ := Text.decimal_append_inj (hstops _) (hstops _)
    (List.append_cancel_left h)
  obtain ⟨hphrase, hnames, h⟩ := Text.phrase_append_inj (hwords hqualifiers hkeyword)
    (hwords hqualifiers' hkeyword') hname hname' (stops_braces _) (stops_braces _)
    (List.cons.inj (List.cons.inj h).2).2
  obtain ⟨hlines, hclosing, rfl⟩ := braces_append_inj hmembers hmembers' hinstance hinstance' h
  obtain ⟨rfl, hkeywords⟩ := List.append_inj' hphrase rfl
  obtain ⟨_, _, _, _, _, _⟩ := b
  obtain ⟨_, _, _, _, _, _⟩ := b'
  dsimp only at hpolicy hset hbinding hnames hlines hclosing
  obtain rfl := Policy.keyword_injective (String.toList_inj.1 hpolicy)
  obtain rfl := UInt32.toNat_inj.1 hset
  obtain rfl := UInt32.toNat_inj.1 hbinding
  exact ⟨by rw [Lexeme.ext_iff.2 hnames, hlines, hclosing, (List.cons.inj hkeywords).1], rfl⟩

theorem write_struct_ne_layout
    {name : Lexeme}
    {members : List Member}
    {r s : List Char} :
    (struct name members).write ++ r ≠ 'l' :: s := by
  unfold write
  simp [Text.spaced]

/-- Behind the first bracket stands a location or a policy. -/
theorem write_stageVariable_ne_block
    {v : StageVariable}
    {direction : String}
    {b : BlockOutline}
    {qualifiers : List String}
    {keyword : String}
    {r s : List Char} :
    (stageVariable v direction).write ++ r ≠ (block b qualifiers keyword).write ++ s := by
  intro h
  have hlead : "layout (location = ".toList = "layout (".toList ++ "location = ".toList := by
    decide
  unfold write at h
  rw [hlead] at h
  simp only [List.append_assoc] at h
  have hbracket := List.append_cancel_left h
  cases hp : b.policy <;> simp [hp, Policy.keyword] at hbracket

/-- What the text of a declaration begins with. -/
def mark
    (c : Char) : Bool :=
  c = 's' || c = 'l'

theorem exists_mark
    (o : Outline) :
    ∃ c s, o.write = c :: s ∧ mark c = true := by
  cases o with
  | struct name members => exact ⟨'s', _, rfl, by decide⟩
  | stageVariable v direction => exact ⟨'l', _, rfl, by decide⟩
  | block b qualifiers keyword => exact ⟨'l', _, rfl, by decide⟩

/-- The outline of a declaration can be told from its text, whatever follows. -/
theorem legible :
    Text.Legible IsSpelled write mark where
  append_inj := by
    intro o o' r s ho ho' h
    cases o with
    | struct name members =>
        cases o' with
        | struct name' members' => exact write_struct_append_inj ho ho' h
        | stageVariable v direction => exact absurd h write_struct_ne_layout
        | block b qualifiers keyword => exact absurd h write_struct_ne_layout
    | stageVariable v direction =>
        cases o' with
        | struct name members => exact absurd h.symm write_struct_ne_layout
        | stageVariable v' direction' => exact write_stageVariable_append_inj ho ho' h
        | block b qualifiers keyword => exact absurd h write_stageVariable_ne_block
    | block b qualifiers keyword =>
        cases o' with
        | struct name members => exact absurd h.symm write_struct_ne_layout
        | stageVariable v direction => exact absurd h.symm write_stageVariable_ne_block
        | block b' qualifiers' keyword' => exact write_block_append_inj ho ho' h
  exists_mark := fun o _ => o.exists_mark

end Outline

end Legibility

end StageInterface
