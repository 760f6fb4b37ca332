import DiskImage.Proofs.Config
import Mathlib.Data.List.Nodup

/-! A description is read by key: where a member stands, what blanks surround it and which other
members there are make no difference, and a field that is given twice is refused. -/
namespace DiskImage

namespace Config

def keys (settings : List Setting) : List String := settings.map Setting.key

namespace Fields

def Carries (fields : Fields) : Setting → Prop
  | .path path => fields.path = some path
  | .backend choice => fields.backend = some choice
  | .modifyBackingFile flag => fields.modifyBackingFile = some flag

theorem has_iff (fields : Fields) (setting : Setting) :
    fields.has setting ↔ ∃ said, fields.Carries said ∧ said.key = setting.key := by
  constructor
  · intro has
    cases setting <;> obtain ⟨value, found⟩ := Option.isSome_iff_exists.mp has
    · exact ⟨.path value, found, rfl⟩
    · exact ⟨.backend value, found, rfl⟩
    · exact ⟨.modifyBackingFile value, found, rfl⟩
  · rintro ⟨said, carries, same⟩
    cases said <;> cases setting <;> simp_all [Carries, has, Setting.key]

theorem carries_set (fields : Fields) (setting said : Setting) :
    (fields.set setting).Carries said ↔
      said = setting ∨ said.key ≠ setting.key ∧ fields.Carries said := by
  cases setting <;> cases said <;> simp [Carries, set, Setting.key, eq_comm]

def Holds (fields : Fields) (settings : List Setting) : Prop :=
  ∀ setting, fields.Carries setting ↔ setting ∈ settings

variable {fields : Fields} {settings before after : List Setting} {setting : Setting}

theorem Holds.has_iff (holds : fields.Holds settings) (setting : Setting) :
    fields.has setting ↔ setting.key ∈ keys settings := by
  rw [Fields.has_iff, keys, List.mem_map]
  exact exists_congr fun said => and_congr_left fun _ => holds said

theorem Holds.set (holds : fields.Holds settings) (fresh : setting.key ∉ keys settings) :
    (fields.set setting).Holds (settings ++ [setting]) := by
  intro said
  have other (mem : said ∈ settings) : said.key ≠ setting.key := by
    intro same
    exact fresh (same ▸ List.mem_map_of_mem mem)
  rw [carries_set, holds said, List.mem_append, List.mem_singleton]
  constructor
  · rintro (same | ⟨-, mem⟩)
    · exact .inr same
    · exact .inl mem
  · rintro (mem | same)
    · exact .inr ⟨other mem, mem⟩
    · exact .inl same

theorem Holds.give_again (holds : fields.Holds settings) (again : setting.key ∈ keys settings) :
    fields.give setting = .error (.misfit (.duplicateField setting.key)) :=
  if_pos ((holds.has_iff setting).mpr again)

theorem Holds.give_fresh (holds : fields.Holds settings) (fresh : setting.key ∉ keys settings) :
    fields.give setting = .ok (fields.set setting) :=
  if_neg (mt (holds.has_iff setting).mp fresh)

theorem Holds.giveAll (holds : fields.Holds before) (nodup : (keys (before ++ after)).Nodup) :
    ∃ last, fields.giveAll after = .ok last ∧ last.Holds (before ++ after) := by
  induction after generalizing fields before with
  | nil => exact ⟨fields, rfl, by rwa [List.append_nil]⟩
  | cons setting after ih =>
    have fresh : setting.key ∉ keys before := by
      rw [keys, List.map_append, List.nodup_append] at nodup
      intro again
      exact nodup.2.2 _ again _ (List.mem_map_of_mem List.mem_cons_self) rfl
    rw [List.append_cons] at nodup
    obtain ⟨last, given, same⟩ := ih (holds.set fresh) nodup
    refine ⟨last, ?_, by rwa [List.append_cons]⟩
    rw [Fields.giveAll, List.foldlM_cons, holds.give_fresh fresh]
    exact given

theorem holds_nil : Holds { } [] := by
  intro setting
  cases setting <;> simp [Carries]

theorem giveAll_of_nodup (nodup : (keys settings).Nodup) :
    ∃ fields, giveAll { } settings = .ok fields ∧ fields.Holds settings :=
  holds_nil.giveAll nodup

theorem giveAll_of_again (nodup : (keys before).Nodup) (again : setting.key ∈ keys before) :
    giveAll { } (before ++ setting :: after) =
      .error (.misfit (.duplicateField setting.key)) := by
  obtain ⟨fields, given, holds⟩ := giveAll_of_nodup nodup
  rw [giveAll_append, given, ok_bind, giveAll, List.foldlM_cons, holds.give_again again]
  rfl

end Fields

theorem exists_again_from {before after : List Setting} (nodup : (keys before).Nodup)
    (repeats : ¬ (keys (before ++ after)).Nodup) :
    ∃ first setting last, before ++ after = first ++ setting :: last ∧ (keys first).Nodup ∧
      setting.key ∈ keys first := by
  induction after generalizing before with
  | nil => exact absurd (by rwa [List.append_nil]) repeats
  | cons setting after ih =>
    by_cases again : setting.key ∈ keys before
    · exact ⟨before, setting, after, rfl, nodup, again⟩
    · have longer : (keys (before ++ [setting])).Nodup := by
        rw [keys, List.map_append, List.map_singleton, ← List.concat_eq_append]
        exact nodup.concat again
      rw [List.append_cons] at repeats ⊢
      exact ih longer repeats

theorem exists_first_again {settings : List Setting} (repeats : ¬ (keys settings).Nodup) :
    ∃ before setting after, settings = before ++ setting :: after ∧ (keys before).Nodup ∧
      setting.key ∈ keys before :=
  @exists_again_from [] settings List.nodup_nil repeats

/-- The value that the settings give to a field, or its default where they give none. -/
def Given {α : Type} (settings : List Setting) (field : α → Setting) (default value : α) : Prop :=
  field value ∈ settings ∨ (∀ other, field other ∉ settings) ∧ value = default

theorem given_getD {α : Type} {settings : List Setting} {field : α → Setting} {kept : Option α}
    (holds : ∀ value, kept = some value ↔ field value ∈ settings) (default : α) :
    Given settings field default (kept.getD default) := by
  cases kept with
  | none => exact .inr ⟨fun value mem => (nomatch (holds value).mpr mem), rfl⟩
  | some value => exact .inl ((holds value).mp rfl)

theorem Given.unique {α : Type} {settings : List Setting} {field : α → Setting} {default a b : α}
    (nodup : (keys settings).Nodup) (injective : ∀ a b, field a = field b → a = b)
    (named : ∀ a b, (field a).key = (field b).key) (first : Given settings field default a)
    (second : Given settings field default b) : a = b := by
  rcases first with mem | ⟨absent, rfl⟩ <;> rcases second with mem' | ⟨absent', rfl⟩
  · exact injective a b (List.inj_on_of_nodup_map nodup mem mem' (named a b))
  · exact absurd mem (absent' a)
  · exact absurd mem' (absent b)
  · rfl

theorem Given.of_perm {α : Type} {settings others : List Setting} {field : α → Setting}
    {default value : α} (same : settings.Perm others) (given : Given settings field default value) :
    Given others field default value :=
  given.imp same.mem_iff.mp
    (And.imp_left fun absent other mem => absent other (same.mem_iff.mpr mem))

structure Describes (settings : List Setting) (config : DriveConfig) : Prop where
  path : .path config.path ∈ settings
  backend : Given settings .backend .auto config.backend
  modifyBackingFile : Given settings .modifyBackingFile false config.modifyBackingFile

theorem Describes.unique {settings : List Setting} (nodup : (keys settings).Nodup)
    {a b : DriveConfig} (first : Describes settings a) (second : Describes settings b) : a = b := by
  have path : a.path = b.path :=
    Setting.path.inj (List.inj_on_of_nodup_map nodup first.path second.path rfl)
  have backend : a.backend = b.backend :=
    first.backend.unique nodup (fun _ _ => Setting.backend.inj) (fun _ _ => rfl) second.backend
  have flag : a.modifyBackingFile = b.modifyBackingFile :=
    first.modifyBackingFile.unique nodup (fun _ _ => Setting.modifyBackingFile.inj)
      (fun _ _ => rfl) second.modifyBackingFile
  cases a
  cases b
  cases path
  cases backend
  cases flag
  rfl

theorem Describes.of_perm {settings others : List Setting} {config : DriveConfig}
    (same : settings.Perm others) (described : Describes settings config) :
    Describes others config where
  path := same.mem_iff.mp described.path
  backend := described.backend.of_perm same
  modifyBackingFile := described.modifyBackingFile.of_perm same

namespace Fields

variable {fields : Fields} {settings : List Setting}

theorem Holds.finish_of_no_path (holds : fields.Holds settings) (absent : "path" ∉ keys settings) :
    fields.finish = .error (.misfit (.missingField "path")) := by
  have none : fields.path = none :=
    Option.not_isSome_iff_eq_none.mp (mt (holds.has_iff (.path "")).mp absent)
  rw [finish, none]

theorem Holds.finish_of_path (holds : fields.Holds settings) {path : String}
    (given : .path path ∈ settings) :
    ∃ config, fields.finish = .ok config ∧ config.path = path ∧ Describes settings config := by
  have found : fields.path = some path := (holds (.path path)).mpr given
  exact ⟨_, by rw [finish, found], rfl, given, given_getD (fun choice => holds (.backend choice)) _,
    given_getD (fun flag => holds (.modifyBackingFile flag)) _⟩

end Fields

/-- What becomes of an object whose members give these settings, in this order. -/
structure ReadByKey (settings : List Setting) (result : Except ImageError DriveConfig) : Prop where
  /-- The first field that is given a second time is named. -/
  again : ¬ (keys settings).Nodup → ∃ before setting after,
    settings = before ++ setting :: after ∧ (keys before).Nodup ∧ setting.key ∈ keys before ∧
      result = .error (.configParse (.misfit (.duplicateField setting.key)))
  noPath : (keys settings).Nodup → "path" ∉ keys settings →
    result = .error (.configParse (.misfit (.missingField "path")))
  emptyPath : (keys settings).Nodup → .path "" ∈ settings →
    result = .error (.invalidConfig "drive path must not be empty")
  taken : (keys settings).Nodup → ∀ path ≠ "", .path path ∈ settings →
    ∃ config, result = .ok config ∧ config.path = path ∧ Describes settings config

theorem ReadByKey.unique {settings others : List Setting} {a b : Except ImageError DriveConfig}
    (nodup : (keys settings).Nodup) (same : settings.Perm others) (first : ReadByKey settings a)
    (second : ReadByKey others b) : a = b := by
  have keysSame : (keys settings).Perm (keys others) := same.map Setting.key
  have nodup' : (keys others).Nodup := keysSame.nodup_iff.mp nodup
  by_cases present : "path" ∈ keys settings
  · obtain ⟨setting, mem, named⟩ := List.mem_map.mp present
    cases setting with
    | path path =>
      by_cases empty : path = ""
      · cases empty
        rw [first.emptyPath nodup mem, second.emptyPath nodup' (same.mem_iff.mp mem)]
      · obtain ⟨config, taken, -, described⟩ := first.taken nodup path empty mem
        obtain ⟨config', taken', -, described'⟩ :=
          second.taken nodup' path empty (same.mem_iff.mp mem)
        rw [taken, taken', (described.of_perm same).unique nodup' described']
    | backend | modifyBackingFile => simp [Setting.key] at named
  · rw [first.noPath nodup present, second.noPath nodup' (mt keysSame.mem_iff.mpr present)]

end Config

namespace DriveConfig

open Config Json

theorem ofJson_text (object : ObjectText) :
    ofJson object.text =
      (Fields.giveAll { } object.settings >>= Fields.finish).mapError .configParse >>=
        fun config => config.validate.map fun _ => config := by
  rw [ofJson, ObjectText.text, String.toList_ofList, read_object]
  rfl

theorem readByKey_text (object : ObjectText) : ReadByKey object.settings (ofJson object.text) where
  again := by
    intro repeats
    obtain ⟨before, setting, after, split, nodup, again⟩ := exists_first_again repeats
    refine ⟨before, setting, after, split, nodup, again, ?_⟩
    rw [ofJson_text, split, Fields.giveAll_of_again nodup again]
    rfl
  noPath := by
    intro nodup absent
    obtain ⟨fields, given, holds⟩ := Fields.giveAll_of_nodup nodup
    rw [ofJson_text, given, ok_bind, holds.finish_of_no_path absent]
    rfl
  emptyPath := by
    intro nodup unnamed
    obtain ⟨fields, given, holds⟩ := Fields.giveAll_of_nodup nodup
    obtain ⟨config, finished, path, -⟩ := holds.finish_of_path unnamed
    rw [ofJson_text, given, ok_bind, finished, mapError_ok, ok_bind, validate_of_no_path path]
    rfl
  taken := by
    intro nodup path named mem
    obtain ⟨fields, given, holds⟩ := Fields.giveAll_of_nodup nodup
    obtain ⟨config, finished, rfl, described⟩ := holds.finish_of_path mem
    refine ⟨config, ?_, rfl, described⟩
    rw [ofJson_text, given, ok_bind, finished, mapError_ok, ok_bind, validate_of_path named]
    rfl

/-- The result of an object depends on nothing but the settings that its members give, and where
none of them is for a field of another, not on their order. -/
theorem objects_read_by_key (object : ObjectText) :
    ReadByKey object.settings (ofJson object.text) ∧
    ∀ other : ObjectText,
      (object.settings = other.settings → ofJson object.text = ofJson other.text) ∧
      ((keys object.settings).Nodup → object.settings.Perm other.settings →
        ofJson object.text = ofJson other.text) := by
  refine ⟨readByKey_text object, fun other => ⟨?_, ?_⟩⟩
  · intro same
    rw [ofJson_text, ofJson_text, same]
  · intro nodup same
    exact (readByKey_text object).unique nodup same (readByKey_text other)

theorem derives_nested :
    Derives .value "[ -0.5e+3,\x7b\"path\":\"\\ud800\"\x7d ]".toList := by
  have none : Blank [] := by decide
  have space : Blank [' '] := by decide
  have number : Number ['-', '0', '.', '5', 'e', '+', '3'] :=
    .parts (.inr rfl) .zero (@FractionPart.digits '5' [] (by decide))
      (@ExponentPart.digits 'e' '3' ['+'] [] (.inl rfl) (.inr (.inl rfl)) (by decide))
  have half : CodeUnit 0xd800 ['d', '8', '0', '0'] :=
    @CodeUnit.digits 13 8 0 0 _ _ _ _ (by decide) (by decide) (by decide) (by decide)
  have path : StringBody "path".toList := (spells_escape "path".toList).stringBody
  have text : StringBody ['\\', 'u', 'd', '8', '0', '0'] := .cons (.unit half) .nil
  have member := Derives.member none path none (.element none (.string text) none)
  exact .list (.elements (.element space (.number number) none)
    (.lastElement (.element none (.object (.lastMember member)) space)))

def nestedMember : Member where
  content := .unknown "Path" _ (by decide) derives_nested
  keyBody := escape "Path".toList
  spelled := spells_escape _
  beforeKey := ⟨[' '], by decide⟩
  afterKey := noGap
  beforeValue := ⟨['\t'], by decide⟩
  afterValue := noGap

theorem spells_ram : Spells "ram".toList "r\\u0061m".toList := by
  have unit : CodeUnit 'a'.toNat ['0', '0', '6', '1'] :=
    @CodeUnit.digits 0 0 6 1 _ _ _ _ (by decide) (by decide) (by decide) (by decide)
  have last : Spells ['m'] ['m'] := .cons (.plain (by decide)) .nil
  exact .cons (.plain (by decide)) (.cons (.unit (by decide) unit) last)

def escapedMember : Member where
  content := .known (.backend .ram) _ (.backend spells_ram)
  keyBody := escape "backend".toList
  spelled := spells_escape _
  beforeKey := noGap
  afterKey := ⟨[' '], by decide⟩
  beforeValue := noGap
  afterValue := ⟨['\n'], by decide⟩

/-- Members out of order in a text with blanks and escapes, and objects of each other outcome. -/
theorem shuffled_object_is_read :
    let path (text : String) : Member := (Setting.path text).member
    let shuffled := tightObject [nestedMember, escapedMember, path "a.img"]
    shuffled.text = "\x7b \"Path\":\t[ -0.5e+3,\x7b\"path\":\"\\ud800\"\x7d ],\"backend\" :" ++
        "\"r\\u0061m\"\n,\"path\":\"a.img\"\x7d" ∧
      ofJson shuffled.text = .ok ⟨"a.img", .ram, false⟩ ∧
      ofJson shuffled.text = ofJson (tightObject [path "a.img", escapedMember]).text ∧
      ofJson (tightObject [path "a.img", nestedMember, path ""]).text =
        .error (.configParse (.misfit (.duplicateField "path"))) ∧
      ofJson (tightObject [escapedMember, nestedMember]).text =
        .error (.configParse (.misfit (.missingField "path"))) ∧
      ofJson (tightObject [path "", escapedMember]).text =
        .error (.invalidConfig "drive path must not be empty") := by
  intro path shuffled
  obtain ⟨read, other⟩ := objects_read_by_key shuffled
  obtain ⟨config, taken, -, described⟩ := read.taken (by decide) "a.img" (by decide) (by decide)
  have described' : Describes shuffled.settings ⟨"a.img", .ram, false⟩ :=
    ⟨by decide, .inl (by decide), .inr ⟨by decide, rfl⟩⟩
  rw [described.unique (by decide) described'] at taken
  obtain ⟨before, setting, after, split, -, -, refused⟩ :=
    (objects_read_by_key (tightObject [path "a.img", nestedMember, path ""])).1.again (by decide)
  have named : setting.key = "path" := by
    have settings : [Setting.path "a.img", .path ""] = before ++ setting :: after := split
    have mem : setting ∈ [Setting.path "a.img", .path ""] := by simp [settings]
    rcases List.mem_pair.mp mem with rfl | rfl <;> rfl
  rw [named] at refused
  have missing := (objects_read_by_key (tightObject [escapedMember, nestedMember])).1
  have empty := (objects_read_by_key (tightObject [path "", escapedMember])).1
  exact ⟨by decide, taken,
    (other (tightObject [path "a.img", escapedMember])).2 (by decide) (by decide), refused,
    missing.noPath (by decide) (by decide), empty.emptyPath (by decide) (by decide)⟩

end DriveConfig

end DiskImage
