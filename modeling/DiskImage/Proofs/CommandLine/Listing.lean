import DiskImage.Proofs.CommandLine.Effects
import DiskImage.Proofs.Config
import DiskImage.Proofs.HexDump
import DiskImage.Proofs.Sessions

/-! What a read prints. Every address of its listing fits a word, and the bytes listed are those of the
image, whichever way the arguments have it opened. -/
namespace DiskImage.CommandLine

section

variable {host : Host} {args : DriveArgs}

theorem exists_openDrive {base : DriveConfig} {bytes : Bytes} (named : args.Names host base)
    (holds : host.HoldsImage base.path bytes) :
    ∃ (config : DriveConfig) (drive : Drive Storage) (id : Nat),
      args.openDrive host = .ok (config, drive) ∧ Drive.Opened host config id drive ∧
        (host.content id).toBytes = bytes := by
  let config : DriveConfig := { base with
    backend := if args.ram then .ram else base.backend
    modifyBackingFile := args.writeThrough || base.modifyBackingFile }
  have resolved : args.resolve host = .ok config := resolve_eq_ok.mpr ⟨base, named, rfl⟩
  have served := Session.serves holds ⟨config.backend, config.modifyBackingFile, []⟩
  obtain ⟨drive, opens⟩ := served.opens
  obtain ⟨id, found, shown⟩ := Drive.opened_of_ofConfig opens.opened
  obtain ⟨image, file, same, -⟩ := holds.exists_file
  cases file.symm.trans found
  exact ⟨config, drive, id, openDrive_eq_ok.mpr ⟨resolved, opens.opened⟩, shown, same⟩

theorem read_of_fits {config : DriveConfig} {drive : Drive Storage}
    {lba count id offset len : Nat}
    (opened : args.openSpan host lba count = .ok (drive, offset, len))
    (shown : Drive.Opened host config id drive) (fits : Fits offset len (host.content id).size) :
    read host args lba count =
      ((HexDump.dump offset ((host.content id).toBytes.slice offset len)).mapError .ofArithmetic,
        host) := by
  obtain ⟨Shows, refines, shows_, -⟩ := shown.shows
  rw [← SparseBytes.size_toBytes] at fits
  obtain ⟨d, after, -, served⟩ := refines.drive.read_eq { } .silent shows_ fits
  have kept := host_read host args lba count
  simp only [Backend.read] at served
  simp only [read, opened, served] at kept ⊢
  rw [kept]

end

/-- A span that the check accepts can be listed, and every way of opening the image prints that one
listing. -/
theorem read_prints_image {bytes : Bytes} {lba count : Nat} {span : Nat × Nat}
    (sized : bytes.size < Word.limit)
    (accepted : checkSpan (bytes.size / sectorSize) lba count = .ok span) :
    ∃ text, HexDump.dump (lba * sectorSize)
        (bytes.slice (lba * sectorSize) (count * sectorSize)) = .ok text ∧
      ∀ (host : Host) (args : DriveArgs) (base : DriveConfig), args.Names host base →
        host.HoldsImage base.path bytes →
        (∃ config drive, args.openDrive host = .ok (config, drive) ∧
          drive.totalSectors = bytes.size / sectorSize) ∧
        run host (.read args lba count) = (.ok text, host) := by
  obtain ⟨inside, rfl⟩ := span_of_checkSpan accepted
  have fits := fits_of_span inside sized
  have room : lba * sectorSize + (bytes.slice (lba * sectorSize) (count * sectorSize)).size ≤
      Word.limit := by
    rw [Bytes.size_slice_of_le fits.stop_le]
    exact Nat.le_of_lt fits.stop_lt
  obtain ⟨text, listed⟩ := HexDump.exists_dump room
  refine ⟨text, listed, ?_⟩
  intro host args base named holds
  obtain ⟨config, drive, id, opened, shown, same⟩ := exists_openDrive named holds
  have sectors : drive.totalSectors = bytes.size / sectorSize := by
    rw [shown.totalSectors_eq, ← same, SparseBytes.size_toBytes]
  refine ⟨⟨config, drive, opened, sectors⟩, ?_⟩
  rw [← sectors] at accepted
  rw [← same, SparseBytes.size_toBytes] at fits
  have spanned := openSpan_eq_ok.mpr ⟨⟨config, opened⟩, accepted⟩
  rw [run, read_of_fits spanned shown fits, same, listed, mapError_ok]

/-- An image that ends inside a sector, opened from its path, in memory, and from a description. -/
theorem odd_image_prints_alike :
    let bytes := Bytes.fill 7 1000
    let described : DriveConfig := ⟨"disk", .ram, true⟩
    let host : Host := ⟨[], [(["disk"], .file 0), (["drive"], .file 1)],
      #[.ofBytes bytes, .ofBytes described.toJson.toUTF8]⟩
    ∃ text, HexDump.dump 0 (bytes.slice 0 512) = .ok text ∧
      run host (.read ⟨some "disk", none, false, false⟩ 0 1) = (.ok text, host) ∧
      run host (.read ⟨some "disk", none, true, true⟩ 0 1) = (.ok text, host) ∧
      run host (.read ⟨none, some "drive", false, false⟩ 0 1) = (.ok text, host) := by
  intro bytes described host
  have size : bytes.size = 1000 := Bytes.size_fill 7 1000
  have holds : host.HoldsImage "disk" bytes :=
    { raw := rfl
      found := congrArg Except.ok (SparseBytes.toBytes_ofBytes bytes)
      large := by rw [size]; decide
      small := by rw [size]; decide }
  have second (a b : SparseBytes) :
      Host.fileBytes ⟨[], [(["disk"], .file 0), (["drive"], .file 1)], #[a, b]⟩ "drive" =
        .ok b.toBytes := rfl
  have stored : host.fileBytes "drive" = .ok described.toJson.toUTF8 :=
    (second _ _).trans (congrArg Except.ok (SparseBytes.toBytes_ofBytes _))
  have taken := DriveConfig.ofFile_of_toJson stored (by decide)
  have sized : bytes.size < Word.limit := by rw [size]; decide
  have accepted : checkSpan (bytes.size / sectorSize) 0 1 = .ok (0, 512) := by rw [size]; rfl
  obtain ⟨text, listed, printed⟩ := read_prints_image sized accepted
  rw [(rfl : 0 * sectorSize = 0), (rfl : 1 * sectorSize = 512)] at listed
  have plain : DriveArgs.Names ⟨some "disk", none, false, false⟩ host ⟨"disk", .auto, false⟩ :=
    .inr ⟨"disk", rfl, rfl, rfl⟩
  have memory : DriveArgs.Names ⟨some "disk", none, true, true⟩ host ⟨"disk", .auto, false⟩ :=
    .inr ⟨"disk", rfl, rfl, rfl⟩
  have file : DriveArgs.Names ⟨none, some "drive", false, false⟩ host described :=
    .inl ⟨"drive", rfl, taken⟩
  exact ⟨text, listed, (printed host _ _ plain holds).2, (printed host _ _ memory holds).2,
    (printed host _ _ file holds).2⟩

end DiskImage.CommandLine
