import DiskImage.CommandLine.Run
import DiskImage.Proofs.CommandLine.Scanning
import DiskImage.Proofs.Text.Numeral

/-! Where the drive of an accepted command line comes from. It is an image or the description of a drive,
whichever of the two the line gives, so that a command never finds itself without either. -/
namespace DiskImage.CommandLine

namespace Command

def subcommand : Command → Subcommand
  | info .. => .info
  | detect .. => .detect
  | read .. => .read
  | write .. => .write
  | segments .. => .segments

def drive? : Command → Option DriveArgs
  | info drive _ | read drive _ _ | write drive _ _ _ => some drive
  | detect _ | segments _ => none

end Command

def Reads (line : List String) (command : Subcommand) (given : List (Key × String)) : Prop :=
  ∃ name arguments, line = name :: arguments ∧ Subcommand.ofName name = some command ∧
    Gives command arguments given

/-- An image was given and no description, or a description and no image; and that is the drive's. -/
inductive OneSource (given : List (Key × String)) (drive : DriveArgs) : Prop
  | image {path : String} (there : (.positional, path) ∈ given)
    (alone : ∀ other, (.config, other) ∉ given) (image : drive.image = some path)
    (config : drive.config = none) : OneSource given drive
  | config {path : String} (there : (.config, path) ∈ given)
    (alone : ∀ other, (.positional, other) ∉ given) (image : drive.image = none)
    (config : drive.config = some path) : OneSource given drive

/-- What a command on a drive needs: texts that can be judged, no key twice, an image or a description but not
both, and what else the command requires. -/
structure Complete (command : Subcommand) (given : List (Key × String)) : Prop where
  clean : Clean given
  one_source : ¬ ((∃ image, (.positional, image) ∈ given) ↔ ∃ path, (.config, path) ∈ given)
  required : ∀ key ∈ command.required, ∃ text, (key, text) ∈ given

structure Fill (given : List (Key × String)) (lba : Nat) (byte : UInt8) : Prop where
  lba_given : ∃ text, (.lba, text) ∈ given ∧ Text.Unsigned 10 text.toList lba
  lba_lt : lba < Word.limit
  byte_given : ∃ text, (.byte, text) ∈ given ∧ ByteLiteral.parse text = .ok byte

section Judged

variable {given : List (Key × String)} {scan : Scan} {key : Key}

theorem judge_path (path : key = .positional ∨ key = .config) {text : String} {value : Value}
    (judged : key.judge text = .ok value) : value = .path text := by
  rcases path with rfl | rfl <;>
  · simp only [Key.judge] at judged
    split at judged
    · cases judged
    · exact (Except.ok.inj judged).symm

theorem judge_lba {text : String} {value : Value} (judged : Key.judge .lba text = .ok value) :
    ∃ n, value = .number n ∧ Text.Unsigned 10 text.toList n ∧ n < Word.limit := by
  simp only [Key.judge] at judged
  split at judged
  · next n read =>
    cases judged
    obtain ⟨unsigned, le⟩ := (Text.readUnsigned_eq_ok (by decide)).mp read
    exact ⟨n, rfl, unsigned, Nat.lt_of_le_sub_one (by decide) le⟩
  · cases judged

theorem judge_byte {text : String} {value : Value} (judged : Key.judge .byte text = .ok value) :
    ∃ b, value = .byte b ∧ ByteLiteral.parse text = .ok b := by
  simp only [Key.judge] at judged
  split at judged
  · next b parsed =>
    cases judged
    exact ⟨b, rfl, parsed⟩
  · cases judged

theorem number_iff {n : Nat} : scan.number? key = some n ↔ scan.value? key = some (.number n) := by
  unfold Scan.number?
  split
  · next m found => rw [found, Option.some.injEq, Option.some.injEq, Value.number.injEq]
  · next other =>
    constructor
    · intro none
      cases none
    · exact fun found => absurd found (other n)

theorem byte_iff {b : UInt8} : scan.byte? key = some b ↔ scan.value? key = some (.byte b) := by
  unfold Scan.byte?
  split
  · next m found => rw [found, Option.some.injEq, Option.some.injEq, Value.byte.injEq]
  · next other =>
    constructor
    · intro none
      cases none
    · exact fun found => absurd found (other b)

variable (took : Took given scan.given)
include took

theorem has_iff : scan.has key = true ↔ ∃ text, (key, text) ∈ given := by
  constructor
  · intro has
    obtain ⟨⟨key', value⟩, member, same⟩ := List.any_eq_true.mp has
    obtain rfl : key' = key := of_decide_eq_true same
    obtain ⟨text, member, -⟩ := took.text_of_mem member
    exact ⟨text, member⟩
  · rintro ⟨text, member⟩
    obtain ⟨value, found, -⟩ := took.lookup_of_mem member
    exact List.any_eq_true.mpr ⟨_, mem_of_lookup found, by simp⟩

theorem text_of_value {value : Value} (found : scan.value? key = some value) :
    ∃ text, (key, text) ∈ given ∧ key.judge text = .ok value :=
  took.text_of_mem (mem_of_lookup found)

theorem path?_eq_some (path : key = .positional ∨ key = .config) {text : String}
    (member : (key, text) ∈ given) : scan.path? key = some text := by
  obtain ⟨value, found, judged⟩ := took.lookup_of_mem member
  obtain rfl := judge_path path judged
  rw [Scan.path?, Scan.value?, found]

theorem path?_eq_none (absent : ∀ text, (key, text) ∉ given) : scan.path? key = none := by
  unfold Scan.path?
  cases found : scan.value? key with
  | none => rfl
  | some value =>
    obtain ⟨text, member, -⟩ := text_of_value took found
    exact absurd member (absent text)

theorem fill_of_values {lba : Nat} {byte : UInt8} (first : scan.number? .lba = some lba)
    (value : scan.byte? .byte = some byte) : Fill given lba byte := by
  obtain ⟨text, member, judged⟩ := text_of_value took (number_iff.mp first)
  obtain ⟨n, same, unsigned, lt⟩ := judge_lba judged
  obtain ⟨text', member', judged'⟩ := text_of_value took (byte_iff.mp value)
  obtain ⟨b, same', parsed⟩ := judge_byte judged'
  cases same
  cases same'
  exact ⟨⟨text, member, unsigned⟩, lt, ⟨text', member', parsed⟩⟩

theorem exists_values_of_fill (lba : ∃ text, (.lba, text) ∈ given)
    (byte : ∃ text, (.byte, text) ∈ given) :
    ∃ n b, scan.number? .lba = some n ∧ scan.byte? .byte = some b := by
  obtain ⟨text, member⟩ := lba
  obtain ⟨value, found, judged⟩ := took.lookup_of_mem member
  obtain ⟨n, rfl, -⟩ := judge_lba judged
  obtain ⟨text', member'⟩ := byte
  obtain ⟨value', found', judged'⟩ := took.lookup_of_mem member'
  obtain ⟨b, rfl, -⟩ := judge_byte judged'
  exact ⟨n, b, number_iff.mpr found, byte_iff.mpr found'⟩

end Judged

section Together

variable {given : List (Key × String)} {scan : Scan} {command : Subcommand}

theorem checkTogether_eq_ok (took : Took given scan.given) (takes : command.takesDrive = true) :
    scan.checkTogether command = .ok () ↔
      ¬ ((∃ image, (.positional, image) ∈ given) ↔ ∃ path, (.config, path) ∈ given) ∧
        ∀ key ∈ command.required, ∃ text, (key, text) ∈ given := by
  simp only [← has_iff took]
  unfold Scan.checkTogether
  split
  · next both => simp [both]
  split
  · next neither => simp [neither]
  split
  · next lacks =>
    obtain ⟨key, needed, absent⟩ := List.any_eq_true.mp lacks
    constructor
    · intro checked
      cases checked
    · rintro ⟨-, all⟩
      simp [all key needed] at absent
  · next both neither lacks =>
    refine ⟨fun _ => ⟨by grind, fun key needed => ?_⟩, fun _ => rfl⟩
    simpa using List.any_eq_false.mp (Bool.eq_false_iff.mpr lacks) key needed

theorem oneSource_driveArgs (took : Took given scan.given)
    (one : ¬ ((∃ image, (.positional, image) ∈ given) ↔ ∃ path, (.config, path) ∈ given)) :
    OneSource given scan.driveArgs := by
  by_cases image : ∃ image, (.positional, image) ∈ given
  · have alone : ∀ other, (.config, other) ∉ given :=
      fun other member => one (iff_of_true image ⟨other, member⟩)
    obtain ⟨path, there⟩ := image
    exact .image there alone (path?_eq_some took (.inl rfl) there) (path?_eq_none took alone)
  · have alone : ∀ other, (.positional, other) ∉ given := fun other member => image ⟨other, member⟩
    by_cases config : ∃ path, (.config, path) ∈ given
    · obtain ⟨path, there⟩ := config
      exact .config there alone (path?_eq_none took alone) (path?_eq_some took (.inr rfl) there)
    · exact absurd (iff_of_false image config) one

theorem missing_eq_ok {α : Type} {x : Option α} {a : α} :
    Scan.missing x = .ok a ↔ x = some a := by
  cases x <;> simp [Scan.missing]

theorem toCommand_facts {accepted : Command} (made : scan.toCommand command = .ok accepted) :
    accepted.subcommand = command ∧
      (∀ drive, accepted.drive? = some drive → command.takesDrive = true ∧ drive = scan.driveArgs) ∧
      ∀ drive lba byte count, accepted = .write drive lba byte count →
        scan.number? .lba = some lba ∧ scan.byte? .byte = some byte := by
  cases command with
  | info | read =>
    cases made
    refine ⟨rfl, ?_, by simp⟩
    rintro drive ⟨⟩
    exact ⟨rfl, rfl⟩
  | detect | segments =>
    obtain ⟨path, -, rfl⟩ := map_eq_ok.mp made
    exact ⟨rfl, by simp [Command.drive?], by simp⟩
  | write =>
    obtain ⟨lba, first, made⟩ := bind_eq_ok.mp made
    obtain ⟨byte, value, made⟩ := bind_eq_ok.mp made
    cases made
    refine ⟨rfl, ?_, ?_⟩
    · rintro drive ⟨⟩
      exact ⟨rfl, rfl⟩
    · rintro drive _ _ count ⟨⟩
      exact ⟨missing_eq_ok.mp first, missing_eq_ok.mp value⟩

theorem exists_toCommand (took : Took given scan.given) (takes : command.takesDrive = true)
    (required : ∀ key ∈ command.required, ∃ text, (key, text) ∈ given) :
    ∃ accepted, scan.toCommand command = .ok accepted := by
  cases command with
  | info | read => exact ⟨_, rfl⟩
  | detect | segments => cases takes
  | write =>
    obtain ⟨n, b, first, value⟩ :=
      exists_values_of_fill took (required .lba (by decide)) (required .byte (by decide))
    exact ⟨_, by rw [Scan.toCommand, first, value]; rfl⟩

end Together

section Line

variable {line : List String} {accepted : Command}

theorem readArguments_trailing (arguments : List String) :
    readArguments true arguments ≠ .ok accepted := by
  cases arguments with
  | nil => simp [readArguments]
  | cons argument rest =>
    simp only [readArguments, if_true]
    split <;> simp

theorem readSubcommand_of_parse (parsed : parse line = .ok accepted) :
    ∃ name arguments command, line = name :: arguments ∧ Subcommand.ofName name = some command ∧
      readSubcommand command arguments = .ok accepted := by
  unfold parse at parsed
  cases line with
  | nil => cases parsed
  | cons name arguments =>
    unfold readArguments at parsed
    rw [if_neg Bool.false_ne_true] at parsed
    split at parsed
    · cases parsed
    split at parsed
    · next command chosen => exact ⟨name, arguments, command, rfl, chosen, parsed⟩
    split at parsed
    · exact absurd parsed (readArguments_trailing arguments)
    · dsimp only at parsed
      split at parsed
      · cases parsed
      · split at parsed <;> cases parsed
    · split at parsed <;> cases parsed
    · cases parsed

theorem parse_of_ofName {name : String} {command : Subcommand}
    (chosen : Subcommand.ofName name = some command) (arguments : List String) :
    parse (name :: arguments) = readSubcommand command arguments := by
  have other : name ≠ "help" := by
    rintro rfl
    cases chosen
  simp only [parse, readArguments, if_neg Bool.false_ne_true, if_neg other, chosen]

theorem hasRead_start : Scan.HasRead { } [] :=
  .judged .nothing rfl (by simp)

theorem scan_of_parse (parsed : parse line = .ok accepted) :
    (∃ given, Reads line accepted.subcommand given) ∧
    ∃ scan : Scan, scan.checkTogether accepted.subcommand = .ok () ∧
      scan.toCommand accepted.subcommand = .ok accepted ∧
      ∀ command given, Reads line command given →
        command = accepted.subcommand ∧ Took given scan.given := by
  obtain ⟨name, arguments, command, rfl, chosen, read⟩ := readSubcommand_of_parse parsed
  obtain ⟨scan, scanned, read⟩ := bind_eq_ok.mp read
  obtain ⟨⟨⟩, checked, made⟩ := bind_eq_ok.mp read
  obtain ⟨rfl, -, -⟩ := toCommand_facts made
  obtain ⟨given, gives⟩ := exists_gives scanned hasRead_start rfl
  refine ⟨⟨given, name, arguments, rfl, chosen, gives⟩, scan, checked, made, ?_⟩
  rintro command given ⟨_, _, ⟨⟩, chosen', gives⟩
  obtain rfl := Option.some.inj (chosen'.symm.trans chosen)
  exact ⟨rfl, took_of_gives gives scanned hasRead_start rfl⟩

theorem exists_parse_of_complete {command : Subcommand} {given : List (Key × String)}
    (reads : Reads line command given) (takes : command.takesDrive = true)
    (complete : Complete command given) : ∃ accepted, parse line = .ok accepted := by
  obtain ⟨name, arguments, rfl, chosen, gives⟩ := reads
  obtain ⟨scan, scanned⟩ := exists_all_of_gives gives hasRead_start rfl complete.clean
  have took : Took given scan.given := took_of_gives gives scanned hasRead_start rfl
  have checked := (checkTogether_eq_ok took takes).mpr ⟨complete.one_source, complete.required⟩
  obtain ⟨accepted, made⟩ := exists_toCommand took takes complete.required
  refine ⟨accepted, ?_⟩
  rw [parse_of_ofName chosen]
  exact bind_eq_ok.mpr ⟨scan, scanned, bind_eq_ok.mpr ⟨(), checked, made⟩⟩

end Line

theorem chain_ne_nil (e : ImageError) : e.chain ≠ [] := by
  cases e <;> simp [ImageError.chain]

theorem resolve_of_oneSource {given : List (Key × String)} {drive : DriveArgs}
    (source : OneSource given drive) (host : Host) :
    drive.resolve host ≠ .error (.causes ["either an image path or --config is required"]) := by
  intro failed
  unfold DriveArgs.resolve at failed
  cases source with
  | image there alone image config =>
    rw [image, config] at failed
    cases failed
  | @config path there alone image config =>
    rw [config] at failed
    cases found : DriveConfig.ofFile host path with
    | ok base =>
      simp only [found] at failed
      cases failed
    | error e =>
      simp only [found] at failed
      injection failed with failed
      injection failed with failed
      injection failed with first nothing
      exact chain_ne_nil e nothing

/-- An accepted line names an image or a description of one, and not both. A line is accepted exactly
if what it gives is complete. -/
theorem accepted_line_has_one_source (line : List String) :
    (∀ command drive, parse line = .ok command → command.drive? = some drive →
      (∃ given, Reads line command.subcommand given ∧ OneSource given drive ∧
        ∀ lba byte count, command = .write drive lba byte count → Fill given lba byte) ∧
      ∀ host : Host, drive.resolve host ≠
        .error (.causes ["either an image path or --config is required"])) ∧
    ∀ command given, Reads line command given → command.takesDrive = true →
      ((∃ accepted, parse line = .ok accepted) ↔ Complete command given) := by
  constructor
  · intro command drive parsed works
    obtain ⟨⟨given, reads⟩, scan, checked, made, every⟩ := scan_of_parse parsed
    obtain ⟨-, took⟩ := every _ given reads
    obtain ⟨-, drives, fills⟩ := toCommand_facts made
    obtain ⟨takes, rfl⟩ := drives drive works
    have source := oneSource_driveArgs took ((checkTogether_eq_ok took takes).mp checked).1
    refine ⟨⟨given, reads, source, ?_⟩, resolve_of_oneSource source⟩
    intro lba byte count same
    obtain ⟨first, value⟩ := fills _ _ _ _ same
    exact fill_of_values took first value
  · intro command given reads takes
    constructor
    · rintro ⟨accepted, parsed⟩
      obtain ⟨-, scan, checked, -, every⟩ := scan_of_parse parsed
      obtain ⟨rfl, took⟩ := every command given reads
      obtain ⟨one, required⟩ := (checkTogether_eq_ok took takes).mp checked
      exact ⟨took.clean, one, required⟩
    · exact exists_parse_of_complete reads takes

/-- A line with its options before and behind the image, which looks like one of them, and a line that
gives a description and an image. -/
theorem image_among_its_options :
    let line := ["write", "--byte=0x7f", "--lba", "5", "--ram", "--", "-disk.img"]
    let drive : DriveArgs := ⟨some "-disk.img", none, true, false⟩
    parse line = .ok (.write drive 5 0x7f 1) ∧
      (∃ given, Reads line .write given ∧ OneSource given drive ∧ Fill given 5 0x7f ∧
        Complete .write given) ∧
      (∀ host : Host, drive.resolve host ≠
        .error (.causes ["either an image path or --config is required"])) ∧
      ∀ accepted, parse ["read", "--config", "drive.json", "disk.img"] ≠ .ok accepted := by
  intro line drive
  have parsed : parse line = .ok (.write drive 5 0x7f 1) := by rfl
  obtain ⟨accepted, exactly⟩ := accepted_line_has_one_source line
  obtain ⟨⟨given, reads, source, fill⟩, resolves⟩ := accepted _ drive parsed rfl
  have complete := (exactly .write given reads rfl).mp ⟨_, parsed⟩
  refine ⟨parsed, ⟨given, reads, source, fill 5 0x7f 1 rfl, complete⟩, resolves, ?_⟩
  have plain (text : String) (bare : text.toList.head? ≠ some '-') : Plain text := by
    intro c rest dashed
    exact bare (by rw [dashed]; rfl)
  have config : ("config", Key.config) ∈ Subcommand.read.keys := by decide
  have gives := Gives.separate config rfl (plain "drive.json" (by decide))
    (.positional (plain "disk.img" (by decide)) .done)
  have both := (accepted_line_has_one_source _).2 .read _ ⟨"read", _, rfl, rfl, gives⟩ rfl
  intro accepted parsed
  exact (both.mp ⟨accepted, parsed⟩).one_source
    (iff_of_true ⟨"disk.img", by simp⟩ ⟨"drive.json", by simp⟩)

end DiskImage.CommandLine
