import DiskImage.CommandLine.Run
import DiskImage.Proofs.Opening

/-! What the commands do to the host's files. A write whose drive opens and whose span is accepted
succeeds and says truly whether it reached the image; nothing else changes a file. -/
namespace DiskImage.CommandLine

theorem span_of_checkSpan {total lba count : Nat} {span : Nat × Nat}
    (accepted : checkSpan total lba count = .ok span) :
    lba + count ≤ total ∧ span = (lba * sectorSize, count * sectorSize) := by
  unfold checkSpan at accepted
  split at accepted
  · cases accepted
  split at accepted
  · cases accepted
  split at accepted
  · cases accepted
  split at accepted
  · cases accepted
  next inside =>
    obtain ⟨offset, first, accepted⟩ := bind_eq_ok.mp accepted
    obtain ⟨len, second, made⟩ := bind_eq_ok.mp accepted
    obtain ⟨-, rfl⟩ := Word.mul_eq_ok.mp (mapError_eq_ok.mp first)
    obtain ⟨-, rfl⟩ := Word.mul_eq_ok.mp (mapError_eq_ok.mp second)
    exact ⟨Nat.le_of_not_lt inside, (Except.ok.inj made).symm⟩

theorem byte_patch_fill {bytes : Bytes} {lba count : Nat}
    (room : lba * sectorSize + count * sectorSize ≤ bytes.size) (byte : UInt8) (i : Nat) :
    (bytes.patch (lba * sectorSize) (Bytes.fill byte (count * sectorSize))).byte i =
      if lba * sectorSize ≤ i ∧ i < (lba + count) * sectorSize then byte else bytes.byte i := by
  rw [Bytes.byte_patch _ (Nat.le_of_add_right_le room), Bytes.size_fill, Bytes.byte_fill,
    Nat.add_mul]
  by_cases within : lba * sectorSize ≤ i ∧ i < lba * sectorSize + count * sectorSize
  · rw [if_pos within, if_pos within, if_pos (by omega)]
  · rw [if_neg within, if_neg within]

section Store

variable {Shows : Storage → Host → Bytes → Prop} {drive : Drive Storage} {host : Host}
  {bytes data : Bytes} {offset : Nat}

theorem store_of_fits (refines : Refines Shows) (shows_ : Shows drive.backend host bytes)
    (fits : Fits offset data.size bytes.size) :
    ∃ (b : Storage) (after : Host), Shows b after (bytes.patch offset data) ∧
      store drive { host } offset data = (.ok (), after) := by
  obtain ⟨d, host', shows', written⟩ := refines.drive.write_eq { } .silent shows_ fits
  have flushed := refines.drive.flush_eq (w := ⟨host', { }⟩) shows'
  have size : (bytes.patch offset data).size = bytes.size := Bytes.size_patch fits.stop_le
  obtain ⟨d', after, last, back⟩ := refines.drive.read_eq { } .silent shows' (by rwa [size])
  rw [Bytes.slice_patch_inside fits.stop_le] at back
  refine ⟨d'.backend, after, last, ?_⟩
  simp only [Backend.write, Backend.read] at written back
  simp only [store, written, flushed, back, if_true]

theorem store_of_not_fits (host : Host) (capacity : drive.capacity = bytes.size)
    (outside : ¬ Fits offset data.size bytes.size) :
    ∃ failure, store drive { host } offset data = (.error failure, host) := by
  unfold store Drive.write
  rw [capacity, checkRequest_of_not_fits outside]
  exact ⟨_, rfl⟩

end Store

/-- What the arguments name: the description in a file, or an image with the usual settings. -/
def DriveArgs.Names (args : DriveArgs) (host : Host) (base : DriveConfig) : Prop :=
  (∃ path, args.config = some path ∧ DriveConfig.ofFile host path = .ok base) ∨
    ∃ image, args.config = none ∧ args.image = some image ∧
      base = { path := image, backend := .auto, modifyBackingFile := false }

theorem resolve_eq_ok {args : DriveArgs} {host : Host} {config : DriveConfig} :
    args.resolve host = .ok config ↔ ∃ base, args.Names host base ∧
      config = { base with
        backend := if args.ram then .ram else base.backend
        modifyBackingFile := args.writeThrough || base.modifyBackingFile } := by
  obtain ⟨image, described, ram, writeThrough⟩ := args
  cases described with
  | some path =>
    constructor
    · intro resolved
      obtain ⟨base, found, made⟩ := bind_eq_ok.mp resolved
      exact ⟨base, .inl ⟨path, rfl, mapError_eq_ok.mp found⟩, (Except.ok.inj made).symm⟩
    · rintro ⟨base, ⟨_, ⟨⟩, found⟩ | ⟨_, ⟨⟩, -⟩, rfl⟩
      exact bind_eq_ok.mpr ⟨base, mapError_eq_ok.mpr found, rfl⟩
  | none =>
    constructor
    · intro resolved
      cases image with
      | some image => exact ⟨_, .inr ⟨image, rfl, rfl, rfl⟩, (Except.ok.inj resolved).symm⟩
      | none => cases resolved
    · rintro ⟨_, ⟨_, ⟨⟩, -⟩ | ⟨_, -, ⟨⟩, rfl⟩, rfl⟩
      rfl

section Drives

variable {args : DriveArgs} {host : Host} {config : DriveConfig} {drive : Drive Storage}
  {lba count : Nat}

theorem openDrive_eq_ok : args.openDrive host = .ok (config, drive) ↔
    args.resolve host = .ok config ∧ Drive.ofConfig host config = .ok drive := by
  unfold DriveArgs.openDrive
  constructor
  · intro opened
    obtain ⟨config', resolved, opened⟩ := bind_eq_ok.mp opened
    obtain ⟨drive', found, made⟩ := bind_eq_ok.mp opened
    cases made
    exact ⟨resolved, mapError_eq_ok.mp found⟩
  · rintro ⟨resolved, found⟩
    exact bind_eq_ok.mpr ⟨config, resolved, bind_eq_ok.mpr ⟨drive, mapError_eq_ok.mpr found, rfl⟩⟩

theorem openSpan_eq_ok {span : Nat × Nat} : args.openSpan host lba count = .ok (drive, span) ↔
    (∃ config, args.openDrive host = .ok (config, drive)) ∧
      checkSpan drive.totalSectors lba count = .ok span := by
  unfold DriveArgs.openSpan
  constructor
  · intro both
    obtain ⟨⟨config, drive'⟩, opened, rest⟩ := bind_eq_ok.mp both
    obtain ⟨⟨offset, len⟩, accepted, made⟩ := bind_eq_ok.mp rest
    cases made
    exact ⟨⟨config, opened⟩, mapError_eq_ok.mp accepted⟩
  · rintro ⟨⟨config, opened⟩, accepted⟩
    exact bind_eq_ok.mpr ⟨_, opened, bind_eq_ok.mpr ⟨span, mapError_eq_ok.mpr accepted, rfl⟩⟩

theorem opened_of_openSpan {span : Nat × Nat} (opened : args.openSpan host lba count = .ok (drive, span)) :
    ∃ (config : DriveConfig) (id : Nat), args.resolve host = .ok config ∧
      host.openFile config.path = .ok id ∧ Drive.Opened host config id drive ∧
      checkSpan drive.totalSectors lba count = .ok span := by
  obtain ⟨⟨config, opened⟩, accepted⟩ := openSpan_eq_ok.mp opened
  obtain ⟨resolved, found⟩ := openDrive_eq_ok.mp opened
  obtain ⟨id, named, opened⟩ := Drive.opened_of_ofConfig found
  exact ⟨config, id, resolved, named, opened, accepted⟩

theorem host_read (host : Host) (args : DriveArgs) (lba count : Nat) :
    (read host args lba count).2 = host := by
  unfold read
  cases opened : args.openSpan host lba count with
  | error failure => rfl
  | ok target =>
    obtain ⟨drive, offset, len⟩ := target
    obtain ⟨config, id, -, -, shown, -⟩ := opened_of_openSpan opened
    have kept := shown.host_read { host } offset len .silent
    dsimp only
    generalize drive.read { host } offset len .silent = outcome at kept ⊢
    obtain ⟨answer, drive', world⟩ := outcome
    cases answer with
    | error halt => exact kept
    | ok reply => cases reply <;> exact kept

section Write

variable {id offset len : Nat}

theorem write_of_fits (opened : args.openSpan host lba count = .ok (drive, offset, len))
    (shown : Drive.Opened host config id drive) (fits : Fits offset len (host.content id).size)
    (byte : UInt8) :
    ∃ after : Host,
      write host args lba byte count = (.ok (writtenText lba byte count config.persists), after) ∧
      if config.persists then
        host.Changes after id ((host.content id).toBytes.patch offset (Bytes.fill byte len))
      else after = host := by
  obtain ⟨Shows, refines, shows_, kept⟩ := shown.shows
  have fits' : Fits offset (Bytes.fill byte len).size (host.content id).toBytes.size := by
    rwa [Bytes.size_fill, SparseBytes.size_toBytes]
  obtain ⟨b, after, last, stored⟩ := store_of_fits refines shows_ fits'
  refine ⟨after, ?_, kept b after _ last⟩
  rw [write, opened, ← shown.modifies_eq]
  simp only [stored]
  rfl

theorem write_of_not_fits (opened : args.openSpan host lba count = .ok (drive, offset, len))
    (shown : Drive.Opened host config id drive) (outside : ¬ Fits offset len (host.content id).size)
    (byte : UInt8) : ∃ failure, write host args lba byte count = (.error failure, host) := by
  obtain ⟨Shows, refines, shows_, -⟩ := shown.shows
  have capacity : drive.capacity = (host.content id).toBytes.size := refines.capacity_eq shows_
  have outside' : ¬ Fits offset (Bytes.fill byte len).size (host.content id).toBytes.size := by
    rwa [Bytes.size_fill, SparseBytes.size_toBytes]
  obtain ⟨failure, refused⟩ := store_of_not_fits host capacity outside'
  refine ⟨failure, ?_⟩
  rw [write, opened]
  simp only [refused]
  rfl

/-- A write fails before it changes anything, or does what it says. -/
theorem write_cases (host : Host) (args : DriveArgs) (lba : Nat) (byte : UInt8) (count : Nat) :
    (∃ failure, write host args lba byte count = (.error failure, host)) ∨
    ∃ (config : DriveConfig) (text : String) (after : Host),
      args.resolve host = .ok config ∧ write host args lba byte count = (.ok text, after) ∧
      (config.persists = false → after = host) := by
  cases opened : args.openSpan host lba count with
  | error failure => exact .inl ⟨failure, by rw [write, opened]⟩
  | ok target =>
    obtain ⟨drive, offset, len⟩ := target
    obtain ⟨config, id, resolved, -, shown, -⟩ := opened_of_openSpan opened
    by_cases fits : Fits offset len (host.content id).size
    · obtain ⟨after, written, effect⟩ := write_of_fits opened shown fits byte
      refine .inr ⟨config, _, after, resolved, written, fun forgets => ?_⟩
      simpa [forgets] using effect
    · exact .inl (write_of_not_fits opened shown fits byte)

end Write

end Drives

/-- Why a command changes no file. -/
inductive Harmless (host : Host) : Command → Prop
  | notWrite {command : Command}
    (other : ∀ args lba byte count, command ≠ .write args lba byte count) : Harmless host command
  | fails {command : Command} {failure : Failure} (failed : (run host command).1 = .error failure) :
    Harmless host command
  | forgets {args : DriveArgs} {lba count : Nat} {byte : UInt8} {config : DriveConfig}
    (resolved : args.resolve host = .ok config)
    (choice : config.backend = .ram ∨ config.modifyBackingFile = false) :
    Harmless host (.write args lba byte count)

theorem run_of_harmless {host : Host} {command : Command} (harmless : Harmless host command) :
    (run host command).2 = host := by
  cases command with
  | info | detect | segments => rfl
  | read args lba count => exact host_read host args lba count
  | write args lba byte count =>
    obtain ⟨failure, refused⟩ | ⟨config, text, after, resolved, written, effect⟩ :=
      write_cases host args lba byte count
    · exact congrArg Prod.snd refused
    · have last : (run host (.write args lba byte count)).2 = after := congrArg Prod.snd written
      have success : (run host (.write args lba byte count)).1 = .ok text := congrArg Prod.fst written
      cases harmless with
      | notWrite other => exact absurd rfl (other args lba byte count)
      | fails failed => simp [success] at failed
      | forgets resolved' choice =>
        cases resolved.symm.trans resolved'
        rw [last]
        exact effect (DriveConfig.persists_eq_false_iff.mpr choice)

section Report

theorem writtenText_eq (lba : Nat) (byte : UInt8) (count : Nat) (persisted : Bool) :
    writtenText lba byte count persisted =
      "wrote " ++ Nat.repr count ++ " sector(s) of 0x" ++ String.ofList (Text.hexByte byte) ++
        " at lba " ++ Nat.repr lba ++ " " ++
        (if persisted then "(persisted)\n" else "(session only)\n") := by
  cases persisted with
  | true =>
    change _ ++ " (" ++ "persisted" ++ ")\n" = _
    simp only [String.append_assoc]
    rfl
  | false =>
    change _ ++ " (" ++ "session only" ++ ")\n" = _
    simp only [String.append_assoc]
    rfl

theorem suffix_writtenText (lba : Nat) (byte : UInt8) (count : Nat) (persisted : Bool) :
    (if persisted then "(persisted)\n" else "(session only)\n").toList <:+
      (writtenText lba byte count persisted).toList := by
  rw [writtenText_eq, String.toList_append]
  exact List.suffix_append ..

theorem not_both_endings {text : List Char} (persisted : "(persisted)\n".toList <:+ text)
    (session : "(session only)\n".toList <:+ text) : False := by
  have nested := List.suffix_of_suffix_length_le persisted session (by decide)
  revert nested
  decide

theorem endings_writtenText (lba : Nat) (byte : UInt8) (count : Nat) (persisted : Bool) :
    ("(persisted)\n".toList <:+ (writtenText lba byte count persisted).toList ↔ persisted = true) ∧
      ("(session only)\n".toList <:+ (writtenText lba byte count persisted).toList ↔
        persisted = false) := by
  have ending := suffix_writtenText lba byte count persisted
  cases persisted with
  | true =>
    exact ⟨iff_of_true ending rfl, iff_of_false (not_both_endings ending) Bool.noConfusion⟩
  | false =>
    exact ⟨iff_of_false (not_both_endings · ending) Bool.noConfusion, iff_of_true ending rfl⟩

end Report

/-- Only a write that its description lets through changes a file, and then exactly the sectors named;
its report ends with whether it did. -/
theorem command_effects :
    (∀ (host : Host) (command : Command), Harmless host command → (run host command).2 = host) ∧
    (∀ (host : Host) (args : DriveArgs) (lba count : Nat) (byte : UInt8) (config : DriveConfig)
      (drive : Drive Storage) (span : Nat × Nat), (∀ id, (host.content id).size < Word.limit) →
      args.openDrive host = .ok (config, drive) →
      checkSpan drive.totalSectors lba count = .ok span →
      ∃ (report : String) (after : Host),
        run host (.write args lba byte count) = (.ok report, after) ∧
        report =
          "wrote " ++ Nat.repr count ++ " sector(s) of 0x" ++ String.ofList (Text.hexByte byte) ++
            " at lba " ++ Nat.repr lba ++ " " ++
            (if config.backend ≠ .ram ∧ config.modifyBackingFile = true then "(persisted)\n"
              else "(session only)\n") ∧
        ("(persisted)\n".toList <:+ report.toList ↔
          config.backend ≠ .ram ∧ config.modifyBackingFile = true) ∧
        ("(session only)\n".toList <:+ report.toList ↔
          config.backend = .ram ∨ config.modifyBackingFile = false) ∧
        (config.backend ≠ .ram → config.modifyBackingFile = true →
          ∃ (id : Nat) (bytes : Bytes), host.openFile config.path = .ok id ∧
            host.Changes after id bytes ∧ bytes.size = (host.content id).size ∧
            ∀ i, bytes.byte i =
              if lba * sectorSize ≤ i ∧ i < (lba + count) * sectorSize then byte
              else (host.content id).toBytes.byte i)) ∧
    ∀ (host : Host) (args : DriveArgs) (config : DriveConfig),
      args.resolve host = .ok config ↔ ∃ base, args.Names host base ∧
        config = { base with
          backend := if args.ram then .ram else base.backend
          modifyBackingFile := args.writeThrough || base.modifyBackingFile } := by
  refine ⟨fun _ _ => run_of_harmless, ?_, fun _ _ _ => resolve_eq_ok⟩
  intro host args lba count byte config drive span sized opened accepted
  obtain ⟨id, named, shown⟩ := Drive.opened_of_ofConfig (openDrive_eq_ok.mp opened).2
  obtain ⟨inside, rfl⟩ := span_of_checkSpan accepted
  rw [shown.totalSectors_eq] at inside
  have fits := fits_of_span inside (sized id)
  obtain ⟨after, written, effect⟩ :=
    write_of_fits (openSpan_eq_ok.mpr ⟨⟨config, opened⟩, accepted⟩) shown fits byte
  obtain ⟨persisted, session⟩ := endings_writtenText lba byte count config.persists
  refine ⟨_, after, written, ?_, persisted.trans DriveConfig.persists_iff,
    session.trans DriveConfig.persists_eq_false_iff, fun file modify => ?_⟩
  · rw [writtenText_eq]
    simp only [DriveConfig.persists_iff]
  · have room := fits.stop_le
    rw [if_pos (DriveConfig.persists_iff.mpr ⟨file, modify⟩)] at effect
    rw [← SparseBytes.size_toBytes] at room
    refine ⟨id, _, named, effect, ?_, byte_patch_fill room byte⟩
    rw [Bytes.size_patch (by rwa [Bytes.size_fill]), SparseBytes.size_toBytes]

/-- One sector of an image of two, written through and then, with the same flag, in memory. -/
theorem write_through_persists :
    let host : Host := ⟨[], [(["disk"], .file 0)], #[.zeros 1024]⟩
    let args : DriveArgs := ⟨some "disk", none, false, true⟩
    let memory : DriveArgs := ⟨some "disk", none, true, true⟩
    (∃ after : Host,
      run host (.write args 1 0xAB 1) =
        (.ok "wrote 1 sector(s) of 0xab at lba 1 (persisted)\n", after) ∧
      (after.content 0).toBytes.byte 511 = (host.content 0).toBytes.byte 511 ∧
      (after.content 0).toBytes.byte 512 = 0xAB) ∧
    run host (.write memory 1 0xAB 1) =
      (.ok "wrote 1 sector(s) of 0xab at lba 1 (session only)\n", host) := by
  intro host args memory
  have sized : ∀ id, (host.content id).size < Word.limit := by
    intro id
    cases id with
    | zero => decide
    | succ id =>
      change (SparseBytes.zeros 0).size < Word.limit
      decide
  constructor
  · have found : Drive.ofConfig ⟨[], [(["disk"], .file 0)], #[.zeros 1024]⟩ ⟨"disk", .auto, true⟩ =
        .ok ⟨.file ⟨0, 1024, true, ⟨BlockCache.standardBlockSize, 1024, 1, ∅, { }⟩⟩, .file,
          Geometry.ofCapacity 1024, true⟩ := rfl
    have opened := openDrive_eq_ok.mpr ⟨(rfl : args.resolve host = .ok ⟨"disk", .auto, true⟩), found⟩
    obtain ⟨_, after, written, rfl, -, -, effect⟩ :=
      command_effects.2.1 host args 1 1 0xAB _ _ (512, 512) sized opened rfl
    obtain ⟨id, bytes, named, changes, size, filled⟩ := effect (by decide) rfl
    have disk : host.openFile "disk" = .ok 0 := rfl
    cases disk.symm.trans named
    refine ⟨after, written, ?_, ?_⟩
    · rw [changes.holds, filled]
      rfl
    · rw [changes.holds, filled]
      rfl
  · have resolved : memory.resolve host = .ok ⟨"disk", .ram, true⟩ := rfl
    have found : Drive.ofConfig ⟨[], [(["disk"], .file 0)], #[.zeros 1024]⟩ ⟨"disk", .ram, true⟩ =
        .ok ⟨.ram ⟨.zeros 1024⟩, .ram, Geometry.ofCapacity 1024, false⟩ := rfl
    obtain ⟨_, after, written, rfl, -⟩ :=
      command_effects.2.1 host memory 1 1 0xAB _ _ (512, 512) sized
        (openDrive_eq_ok.mpr ⟨resolved, found⟩) rfl
    have kept := command_effects.1 host (.write memory 1 0xAB 1) (.forgets resolved (.inl rfl))
    rw [written] at kept ⊢
    exact congrArg (Prod.mk _) kept

end DiskImage.CommandLine
