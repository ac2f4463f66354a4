import SchemaCatalog.Assertion
import SchemaCatalog.Catalog.Export
import SchemaCatalog.Catalog.Workspace
import SchemaCatalog.Fault.Handles
import SchemaCatalog.Fault.Outline
import SchemaCatalog.Proofs.Assembly
import SchemaCatalog.Proofs.Linking
import SchemaCatalog.Proofs.Resolution
import SchemaCatalog.Proofs.Build
import SchemaCatalog.Proofs.Buckets
import SchemaCatalog.Proofs.Lookup
import SchemaCatalog.Proofs.Outcome
import SchemaCatalog.Proofs.Interleaving
import SchemaCatalog.Proofs.Growth
import SchemaCatalog.Proofs.ReadBack
import SchemaCatalog.Proofs.Reordering
import SchemaCatalog.Proofs.Stops
import SchemaCatalog.Proofs.Log
import SchemaCatalog.Proofs.Codec
import SchemaCatalog.Proofs.Sharing
import SchemaCatalog.Proofs.Classification
import SchemaCatalog.Proofs.Rendering
import SchemaCatalog.Proofs.Inflected
import SchemaCatalog.Proofs.Prose
import SchemaCatalog.Proofs.Forms
import SchemaCatalog.Proofs.Regular
import SchemaCatalog.Proofs.Boundaries
import SchemaCatalog.Proofs.Agreement
import SchemaCatalog.Proofs.Contexts
import SchemaCatalog.Fault.Walk
import SchemaCatalog.Proofs.Walk
import SchemaCatalog.Proofs.Conventions
import SchemaCatalog.Proofs.Enumerators
import SchemaCatalog.Proofs.CamelCase
import SchemaCatalog.Proofs.RefusedWords
