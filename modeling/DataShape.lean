import DataShape.ErrorRecord
import DataShape.Main
import DataShape.Session
import DataShape.Proofs.Conformance
import DataShape.Proofs.PatternFaults
import DataShape.Proofs.Spelling
import DataShape.Proofs.Culprit
import DataShape.Proofs.Grammar
import DataShape.Proofs.FieldPatterns
import DataShape.Proofs.Registrations
import DataShape.Proofs.FailFast
import DataShape.Proofs.Libraries
import DataShape.Proofs.Consultations
import DataShape.Proofs.Labels
import DataShape.Proofs.Sightings
import DataShape.Proofs.Weakening
import DataShape.Proofs.FirstDefects
import DataShape.Proofs.BuiltPatterns
import DataShape.Proofs.Selection
import DataShape.Proofs.Loading
import DataShape.Proofs.Verdicts
import DataShape.Proofs.Sources
import DataShape.Proofs.Modifiers
import DataShape.Proofs.NamedPaths
import DataShape.Proofs.SelectedParts
import DataShape.Proofs.Choices
import DataShape.Proofs.Representation
