import DiskImage.Proofs.Config.Members

/-! Written descriptions are read back as they were. The writer leaves no blanks and gives all three
fields, which is one of the texts that the reader takes. -/
namespace DiskImage

open Json

namespace Config

def noGap : Gap := ⟨[], List.forall_mem_nil _⟩

def Setting.value : Setting → List Char
  | path text => string text
  | backend choice => string choice.name
  | modifyBackingFile flag => boolean flag

theorem Setting.writtenAs_value (setting : Setting) : setting.WrittenAs setting.value := by
  cases setting with
  | path text => exact .path (spells_escape text.toList)
  | backend choice => exact .backend (spells_escape choice.name.toList)
  | modifyBackingFile flag => exact .flag flag

def Setting.member (setting : Setting) : Member where
  content := .known setting setting.value setting.writtenAs_value
  keyBody := escape setting.key.toList
  spelled := spells_escape setting.key.toList
  beforeKey := noGap
  afterKey := noGap
  beforeValue := noGap
  afterValue := noGap

def tightObject (members : List Member) : ObjectText where
  before := noGap
  members := members
  beforeBrace := noGap
  behind := noGap

def writtenText (config : DriveConfig) : ObjectText :=
  tightObject ([Setting.path config.path, .backend config.backend,
    .modifyBackingFile config.modifyBackingFile].map Setting.member)

theorem chars_writtenText (config : DriveConfig) :
    (writtenText config).chars = config.toJson.toList := by
  rw [DriveConfig.toJson, String.toList_ofList]
  simp [ObjectText.chars, writtenText, tightObject, joinedMembers, laterMembers, Setting.member,
    Member.chars, noGap, Content.value, Setting.value, Setting.key, object, string]

theorem read_toJson (config : DriveConfig) : read config.toJson.toList = .ok config := by
  rw [← chars_writtenText, read_object]
  rfl

example : (DriveConfig.mk "a.img" .file true).toJson =
    "\x7b\"path\":\"a.img\",\"backend\":\"file\",\"modifyBackingFile\":true\x7d" := by
  decide +kernel

end Config

namespace DriveConfig

theorem validate_of_path {config : DriveConfig} (named : config.path ≠ "") :
    config.validate = .ok () :=
  if_neg (mt String.isEmpty_iff.mp named)

theorem validate_of_no_path {config : DriveConfig} (unnamed : config.path = "") :
    config.validate = .error (.invalidConfig "drive path must not be empty") :=
  if_pos (String.isEmpty_iff.mpr unnamed)

theorem ofJson_toJson (config : DriveConfig) :
    ofJson config.toJson = config.validate.map fun _ => config := by
  rw [ofJson, Config.read_toJson]
  rfl

theorem ofJson_toJson_of_path {config : DriveConfig} (named : config.path ≠ "") :
    ofJson config.toJson = .ok config := by
  rw [ofJson_toJson, validate_of_path named]
  rfl

theorem ofFile_of_toJson {host : Host} {path : String} {config : DriveConfig}
    (found : host.fileBytes path = .ok config.toJson.toUTF8) (named : config.path ≠ "") :
    ofFile host path = .ok config := by
  have decoded (text : String) : String.fromUTF8? text.toUTF8 = some text := by
    simp only [String.fromUTF8?, String.toUTF8_eq_toByteArray, dif_pos text.isValidUTF8]
    rfl
  have text : host.readText path = .ok config.toJson := by
    simp only [Host.readText, found, decoded]
  exact bind_eq_ok.mpr ⟨_, mapError_eq_ok.mpr text, ofJson_toJson_of_path named⟩

theorem path_of_ofJson {text : String} {config : DriveConfig} (taken : ofJson text = .ok config) :
    config.path ≠ "" := by
  obtain ⟨found, _, checked⟩ := bind_eq_ok.mp taken
  obtain ⟨_, valid, same⟩ := bind_eq_ok.mp checked
  cases same
  intro unnamed
  cases (validate_of_no_path unnamed).symm.trans valid

/-- A description with a path is read back from its own text, whatever characters it has; one without
is refused, and none is taken from a text. -/
theorem description_reads_back (config : DriveConfig) :
    (config.path ≠ "" → ofJson config.toJson = .ok config) ∧
    (config.path = "" →
      ofJson config.toJson = .error (.invalidConfig "drive path must not be empty")) ∧
    ∀ text, ofJson text = .ok config → config.path ≠ "" ∧ ofJson config.toJson = .ok config := by
  refine ⟨ofJson_toJson_of_path, ?_, ?_⟩
  · intro unnamed
    rw [ofJson_toJson, validate_of_no_path unnamed]
    rfl
  · intro text taken
    have path := path_of_ofJson taken
    exact ⟨path, ofJson_toJson_of_path path⟩

/-- A path of quotes, controls and a character that takes two escapes, from its own text and from
another one. -/
theorem awkward_description_reads_back :
    let config : DriveConfig := ⟨"\"\\\n\x00\x1fé/𝄞", .auto, true⟩
    let text :=
      "\x7b\"modifyBackingFile\": true, \"path\":\"\\u0022\\\\\\n\\u0000\\u001Fé\\/\\ud834\\udd1e\"\x7d"
    ofJson config.toJson = .ok config ∧
      ofJson (toJson ⟨"", .file, false⟩) =
        .error (.invalidConfig "drive path must not be empty") ∧
      ofJson text = .ok config ∧ config.path ≠ "" := by
  intro config text
  have value : (ofJson text).toOption = some config := by decide +kernel
  have taken : ofJson text = .ok config := by
    cases found : ofJson text with
    | error => simp [found, Except.toOption] at value
    | ok read =>
      rw [found] at value
      exact congrArg Except.ok (Option.some.inj value)
  exact ⟨(description_reads_back config).1 (by decide),
    (description_reads_back ⟨"", .file, false⟩).2.1 rfl, taken,
    ((description_reads_back config).2.2 text taken).1⟩

end DriveConfig

end DiskImage
