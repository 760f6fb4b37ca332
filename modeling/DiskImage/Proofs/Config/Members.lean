import DiskImage.Config.Reader
import DiskImage.Proofs.Json.Skipping
import DiskImage.Proofs.Json.Spelling

/-! The members of a description in JSON text: known keys with a value of their type, other keys
with any value, and blanks wherever the grammar has them. Reading them one after another gives each
setting to the fields in turn. -/
namespace DiskImage.Config

open Json

inductive Setting
  | path (path : String)
  | backend (choice : BackendChoice)
  | modifyBackingFile (flag : Bool)
  deriving DecidableEq, Repr

def Setting.key : Setting → String
  | path _ => "path"
  | backend _ => "backend"
  | modifyBackingFile _ => "modifyBackingFile"

def fieldNames : List String := ["path", "backend", "modifyBackingFile"]

inductive Setting.WrittenAs : Setting → List Char → Prop
  | path {path : String} {body : List Char} (spelled : Spells path.toList body) :
    WrittenAs (.path path) ('"' :: (body ++ ['"']))
  | backend {choice : BackendChoice} {body : List Char} (spelled : Spells choice.name.toList body) :
    WrittenAs (.backend choice) ('"' :: (body ++ ['"']))
  | flag (flag : Bool) : WrittenAs (.modifyBackingFile flag) (boolean flag)

/-- What a member says: a setting, or any value at all for a key that names no field. -/
inductive Content
  | known (setting : Setting) (value : List Char) (written : setting.WrittenAs value)
  | unknown (key : String) (value : List Char) (other : key ∉ fieldNames)
    (written : Derives .value value)

namespace Content

def key : Content → String
  | known setting _ _ => setting.key
  | unknown key _ _ _ => key

def value : Content → List Char
  | known _ value _ => value
  | unknown _ value _ _ => value

def settings : Content → List Setting
  | known setting _ _ => [setting]
  | unknown _ _ _ _ => []

end Content

abbrev Gap : Type := { s : List Char // Blank s }

structure Member where
  content : Content
  keyBody : List Char
  spelled : Spells content.key.toList keyBody
  beforeKey : Gap
  afterKey : Gap
  beforeValue : Gap
  afterValue : Gap

def Member.chars (member : Member) : List Char :=
  member.beforeKey.val ++ '"' :: (member.keyBody ++ '"' :: (member.afterKey.val ++ ':' ::
    (member.beforeValue.val ++ (member.content.value ++ member.afterValue.val))))

def Member.behindQuote (member : Member) (rest : List Char) : List Char :=
  member.keyBody ++ '"' :: (member.afterKey.val ++ ':' :: (member.beforeValue.val ++
    (member.content.value ++ (member.afterValue.val ++ rest))))

theorem Member.chars_append (member : Member) (rest : List Char) :
    member.chars ++ rest = member.beforeKey.val ++ '"' :: member.behindQuote rest := by
  simp only [chars, behindQuote, List.append_assoc, List.cons_append]

def laterMembers (members : List Member) : List Char :=
  members.flatMap fun member => ',' :: member.chars

def joinedMembers : List Member → List Char
  | [] => []
  | member :: others => member.chars ++ laterMembers others

structure ObjectText where
  before : Gap
  members : List Member
  beforeBrace : Gap
  behind : Gap

namespace ObjectText

def chars (object : ObjectText) : List Char :=
  object.before.val ++ '{' :: (joinedMembers object.members ++
    (object.beforeBrace.val ++ '}' :: object.behind.val))

def text (object : ObjectText) : String := String.ofList object.chars

def settings (object : ObjectText) : List Setting := object.members.flatMap (·.content.settings)

end ObjectText

namespace Fields

def has (fields : Fields) : Setting → Bool
  | .path _ => fields.path.isSome
  | .backend _ => fields.backend.isSome
  | .modifyBackingFile _ => fields.modifyBackingFile.isSome

def set (fields : Fields) : Setting → Fields
  | .path path => { fields with path := some path }
  | .backend choice => { fields with backend := some choice }
  | .modifyBackingFile flag => { fields with modifyBackingFile := some flag }

def give (fields : Fields) (setting : Setting) : Except ConfigFault Fields :=
  if fields.has setting then .error (.misfit (.duplicateField setting.key))
  else .ok (fields.set setting)

def giveAll (fields : Fields) (settings : List Setting) : Except ConfigFault Fields :=
  settings.foldlM give fields

theorem giveAll_append (fields : Fields) (before after : List Setting) :
    fields.giveAll (before ++ after) =
      fields.giveAll before >>= fun fields => fields.giveAll after :=
  List.foldlM_append

theorem giveAll_singleton (fields : Fields) (setting : Setting) :
    fields.giveAll [setting] = fields.give setting := by
  rw [giveAll, List.foldlM_cons]
  exact bind_pure _

end Fields

theorem skipBlank_append {gap : List Char} (blank : Blank gap) (s : List Char) :
    skipBlank (gap ++ s) = skipBlank s :=
  List.dropWhile_append_of_pos blank

theorem skipBlank_of_blank {gap : List Char} (blank : Blank gap) : skipBlank gap = [] := by
  have skipped := skipBlank_append blank []
  rwa [List.append_nil] at skipped

theorem readColon_gap (gap : Gap) (rest : List Char) :
    readColon (gap.val ++ ':' :: rest) = .ok rest := by
  rw [readColon, skipBlank_append gap.property]
  rfl

section Values

variable (gap : Gap) {text : String} {body : List Char}

theorem skipBlank_quoted (body rest : List Char) :
    skipBlank (gap.val ++ (('"' :: (body ++ ['"'])) ++ rest)) = '"' :: (body ++ '"' :: rest) := by
  rw [skipBlank_append gap.property, List.cons_append, List.append_assoc]
  rfl

theorem readText_of_spells (wanted : WantedValue) (spelled : Spells text.toList body)
    (rest : List Char) :
    readText wanted (gap.val ++ (('"' :: (body ++ ['"'])) ++ rest)) = .ok (text, rest) := by
  simp only [readText, skipBlank_quoted, readString_of_spells spelled, Except.map,
    String.ofList_toList]

theorem choiceOfName_name (choice : BackendChoice) : choiceOfName choice.name = .ok choice := by
  cases choice <;> rfl

theorem readChoice_of_spells {choice : BackendChoice} (spelled : Spells choice.name.toList body)
    (rest : List Char) :
    readChoice (gap.val ++ (('"' :: (body ++ ['"'])) ++ rest)) = .ok (choice, rest) := by
  simp only [readChoice, skipBlank_quoted, readString_of_spells spelled, String.ofList_toList,
    choiceOfName_name, Except.map]

theorem readFlag_boolean (flag : Bool) (rest : List Char) :
    readFlag (gap.val ++ (boolean flag ++ rest)) = .ok (flag, rest) := by
  rw [readFlag, skipBlank_append gap.property]
  cases flag <;> rfl

end Values

theorem readMember_of_has {fields : Fields} {setting : Setting} (has : fields.has setting)
    (s : List Char) :
    readMember fields setting.key s = .error (.misfit (.duplicateField setting.key)) := by
  cases setting <;> exact if_pos has

theorem readMember_of_writtenAs {setting : Setting} {value : List Char}
    (written : setting.WrittenAs value) (fields : Fields) (afterKey beforeValue : Gap)
    (rest : List Char) :
    readMember fields setting.key (afterKey.val ++ ':' :: (beforeValue.val ++ (value ++ rest))) =
      (fields.give setting).map fun fields => (fields, rest) := by
  by_cases has : fields.has setting
  · rw [readMember_of_has has, Fields.give, if_pos has]
    rfl
  · rw [Fields.give, if_neg has]
    cases written with
    | path spelled =>
      refine (if_neg has).trans ?_
      rw [readColon_gap, ok_bind, readText_of_spells _ _ spelled]
      rfl
    | backend spelled =>
      refine (if_neg has).trans ?_
      rw [readColon_gap, ok_bind, readChoice_of_spells _ spelled]
      rfl
    | flag flag =>
      refine (if_neg has).trans ?_
      rw [readColon_gap, ok_bind, readFlag_boolean]
      rfl

theorem readMember_of_unknown {key : String} {value rest : List Char} (other : key ∉ fieldNames)
    (written : Derives .value value) (ends : NumberEnds rest) (fields : Fields)
    (afterKey beforeValue : Gap) :
    readMember fields key (afterKey.val ++ ':' :: (beforeValue.val ++ (value ++ rest))) =
      .ok (fields, rest) := by
  simp only [fieldNames, List.mem_cons, List.not_mem_nil, or_false, not_or] at other
  obtain ⟨path, backend, flag⟩ := other
  rw [readMember, if_neg path, if_neg backend, if_neg flag, readColon_gap, ok_bind,
    skipValue_of_derives beforeValue.property written ends]
  rfl

theorem readMembers_close {first : Bool} {s rest : List Char} (fields : Fields)
    (closed : nextMember first s = .ok (.close rest)) :
    readMembers fields first s = .ok (fields, rest) := by
  rw [readMembers]
  split
  · next fault => cases fault.symm.trans closed
  · next found =>
    cases found.symm.trans closed
    rfl
  · next found => cases found.symm.trans closed

theorem readMembers_more {first : Bool} {s text value : List Char} {key : String} (fields : Fields)
    (opened : nextMember first s = .ok (.more text))
    (quoted : readString text = .ok (key.toList, value)) :
    readMembers fields first s =
      readMember fields key value >>= fun (fields, rest) => readMembers fields false rest := by
  rw [readMembers]
  -- The reader keeps an equation of each part for its termination, so no part can be rewritten.
  split
  · next fault => cases fault.symm.trans opened
  · next found => cases found.symm.trans opened
  · next found =>
    cases found.symm.trans opened
    split
    · next fault => cases fault.symm.trans quoted
    · next found =>
      cases found.symm.trans quoted
      split
      · next fault =>
        rw [String.ofList_toList] at fault
        rw [fault]
        rfl
      · next found =>
        rw [String.ofList_toList] at found
        rw [found]
        rfl

theorem nextMember_blank {gap : List Char} (blank : Blank gap) (first : Bool) (s : List Char) :
    nextMember first (gap ++ s) = nextMember first s := by
  rw [nextMember, skipBlank_append blank, nextMember]

theorem nextMember_comma {gap : List Char} (blank : Blank gap) (rest : List Char) :
    nextMember false (',' :: (gap ++ '"' :: rest)) = .ok (.more rest) := by
  have comma (s : List Char) : skipBlank (',' :: s) = ',' :: s := rfl
  have quote : skipBlank ('"' :: rest) = '"' :: rest := rfl
  simp only [nextMember, comma, skipBlank_append blank, quote, Bool.false_eq_true, if_false]

theorem readMember_content (content : Content) (fields : Fields) (afterKey beforeValue : Gap)
    {rest : List Char} (ends : NumberEnds rest) :
    readMember fields content.key
        (afterKey.val ++ ':' :: (beforeValue.val ++ (content.value ++ rest))) =
      (fields.giveAll content.settings).map fun fields => (fields, rest) := by
  cases content with
  | known setting value written =>
    rw [Content.settings, Fields.giveAll_singleton]
    exact readMember_of_writtenAs written fields afterKey beforeValue rest
  | unknown key value other written => exact readMember_of_unknown other written ends fields _ _

theorem readMembers_member {first : Bool} {s rest : List Char} (member : Member) (fields : Fields)
    (opened : nextMember first s = .ok (.more (member.behindQuote rest)))
    (ends : NumberEnds rest) :
    readMembers fields first s = fields.giveAll member.content.settings >>=
      fun fields => readMembers fields false (member.afterValue.val ++ rest) := by
  rw [readMembers_more fields opened (readString_of_spells member.spelled _),
    readMember_content _ _ _ _ (numberEnds_blank member.afterValue.property ends)]
  cases fields.giveAll member.content.settings <;> rfl

section Objects

variable (members : List Member) (fields : Fields) (brace : Gap) (rest : List Char)

theorem numberEnds_laterMembers :
    NumberEnds (laterMembers members ++ (brace.val ++ '}' :: rest)) := by
  cases members with
  | nil =>
    rw [laterMembers, List.flatMap_nil, List.nil_append]
    exact numberEnds_blank brace.property (numberEnds_mark (by simp) _)
  | cons => exact numberEnds_mark (.inl rfl) _

theorem readMembers_laterMembers (gap : Gap) :
    readMembers fields false (gap.val ++ (laterMembers members ++ (brace.val ++ '}' :: rest))) =
      (fields.giveAll (members.flatMap (·.content.settings))).map fun fields => (fields, rest) := by
  induction members generalizing fields gap with
  | nil =>
    refine readMembers_close fields ?_
    rw [nextMember_blank gap.property, laterMembers, List.flatMap_nil, List.nil_append,
      nextMember_blank brace.property]
    rfl
  | cons member members ih =>
    have text : laterMembers (member :: members) ++ (brace.val ++ '}' :: rest) =
        ',' :: (member.beforeKey.val ++ '"' ::
          member.behindQuote (laterMembers members ++ (brace.val ++ '}' :: rest))) := by
      rw [laterMembers, List.flatMap_cons, List.append_assoc, List.cons_append,
        Member.chars_append, laterMembers]
    have opened : nextMember false
        (gap.val ++ (laterMembers (member :: members) ++ (brace.val ++ '}' :: rest))) =
        .ok (.more (member.behindQuote (laterMembers members ++ (brace.val ++ '}' :: rest)))) := by
      rw [nextMember_blank gap.property, text, nextMember_comma member.beforeKey.property]
    rw [readMembers_member member fields opened (numberEnds_laterMembers members brace rest),
      List.flatMap_cons, Fields.giveAll_append]
    cases fields.giveAll member.content.settings with
    | error fault => rfl
    | ok fields => exact ih fields member.afterValue

theorem readMembers_joinedMembers :
    readMembers fields true (joinedMembers members ++ (brace.val ++ '}' :: rest)) =
      (fields.giveAll (members.flatMap (·.content.settings))).map fun fields => (fields, rest) := by
  cases members with
  | nil =>
    refine readMembers_close fields ?_
    rw [joinedMembers, List.nil_append, nextMember_blank brace.property]
    rfl
  | cons member members =>
    have opened : nextMember true
        (joinedMembers (member :: members) ++ (brace.val ++ '}' :: rest)) =
        .ok (.more (member.behindQuote (laterMembers members ++ (brace.val ++ '}' :: rest)))) := by
      rw [joinedMembers, List.append_assoc, Member.chars_append,
        nextMember_blank member.beforeKey.property]
      rfl
    rw [readMembers_member member fields opened (numberEnds_laterMembers members brace rest),
      List.flatMap_cons, Fields.giveAll_append]
    cases fields.giveAll member.content.settings with
    | error fault => rfl
    | ok fields => exact readMembers_laterMembers members fields brace rest member.afterValue

end Objects

/-- Only what the members say of the fields counts, in its order. -/
theorem read_object (object : ObjectText) :
    read object.chars = Fields.giveAll { } object.settings >>= Fields.finish := by
  have start : skipBlank object.chars = '{' :: (joinedMembers object.members ++
      (object.beforeBrace.val ++ '}' :: object.behind.val)) := by
    rw [ObjectText.chars, skipBlank_append object.before.property]
    rfl
  have members := readMembers_joinedMembers object.members { } object.beforeBrace object.behind.val
  rw [← ObjectText.settings] at members
  simp only [read, start, members]
  cases Fields.giveAll { } object.settings with
  | error fault => rfl
  | ok fields =>
    simp only [Except.map, ok_bind, skipBlank_of_blank object.behind.property]
    exact bind_pure fields.finish

end DiskImage.Config
