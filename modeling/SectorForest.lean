import SectorForest.Text.Blank
import SectorForest.Text.Name
import SectorForest.Datum.Pretty
import SectorForest.Session
import SectorForest.Storage.Phrase
import SectorForest.Files
import SectorForest.Opening
import SectorForest.Toml.Document
import SectorForest.Config
import SectorForest.Logging
import SectorForest.Sector.Code
import SectorForest.Dump
import SectorForest.Datum.Json
import SectorForest.Main
import SectorForest.Proofs.Refine
import SectorForest.Proofs.Roots
import SectorForest.Proofs.Identity
import SectorForest.Proofs.Atomicity
import SectorForest.Proofs.Refusals
import SectorForest.Proofs.Serial
import SectorForest.Proofs.LifeCycle
import SectorForest.Proofs.Noninterference
import SectorForest.Proofs.Crowd
import SectorForest.Proofs.Transcript
import SectorForest.Proofs.Tree.Span
import SectorForest.Proofs.Candor
import SectorForest.Proofs.Chronicle
import SectorForest.Proofs.Scope
import SectorForest.Proofs.Tree.Flatten
import SectorForest.Proofs.Tree.Reorder
import SectorForest.Proofs.Decision
import SectorForest.Proofs.Renaming
import SectorForest.Proofs.ReadBack
import SectorForest.Proofs.ParentCode
import SectorForest.Proofs.RoundTrip
import SectorForest.Proofs.FirstRoot
import SectorForest.Proofs.Migration
import SectorForest.Proofs.Readiness
import SectorForest.Proofs.Wording
import SectorForest.Proofs.Testimony
import SectorForest.Proofs.Opening
import SectorForest.Proofs.Activation
import SectorForest.Proofs.Listing
import SectorForest.Proofs.Payload
import SectorForest.Proofs.Tree.Written
import SectorForest.Proofs.Datum.Records
import SectorForest.Proofs.Depth
