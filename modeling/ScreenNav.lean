import ScreenNav.Main
import ScreenNav.Proofs.QualifiedNames
import ScreenNav.Proofs.Scope
import ScreenNav.Proofs.Generation
import ScreenNav.Proofs.References
import ScreenNav.Proofs.Methods
import ScreenNav.Proofs.Agreement
import ScreenNav.Proofs.Shadowing
import ScreenNav.Proofs.Literals
import ScreenNav.Proofs.Rounding
import ScreenNav.Proofs.DoubleText
import ScreenNav.Proofs.Lexing
import ScreenNav.Proofs.Reading
import ScreenNav.Proofs.Printing
import ScreenNav.Proofs.Grammar
import ScreenNav.Proofs.RoundTrip
import ScreenNav.Proofs.Failure
import ScreenNav.Proofs.TypeTexts
import ScreenNav.Proofs.Descriptions
import ScreenNav.Proofs.Getters
import ScreenNav.Proofs.TypeArguments
import ScreenNav.Proofs.Derivation
import ScreenNav.Proofs.Tokenization
import ScreenNav.Proofs.Acceptance
import ScreenNav.Proofs.Relaxed
import ScreenNav.Proofs.Binding
import ScreenNav.Proofs.DeclaredNames
import ScreenNav.Proofs.Validity
import ScreenNav.Proofs.Gathering
import ScreenNav.Proofs.Clashes
import ScreenNav.Proofs.Safety
import ScreenNav.Proofs.Assignability
import ScreenNav.Proofs.Reports
import ScreenNav.Proofs.Settings
import ScreenNav.Proofs.Rearrangement
import ScreenNav.Proofs.Consistency
import ScreenNav.Proofs.Structure
import ScreenNav.Proofs.Readable
import ScreenNav.Proofs.ContextFree
import ScreenNav.Proofs.Redeclaration
import ScreenNav.Proofs.Deletion
import ScreenNav.Proofs.Grouping
import ScreenNav.Proofs.FieldNames
import ScreenNav.Proofs.PackagePaths
import ScreenNav.Proofs.Cutting
import ScreenNav.Proofs.SourceText
import ScreenNav.Proofs.Files
import ScreenNav.Proofs.Writing
