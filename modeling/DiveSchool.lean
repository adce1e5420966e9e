import DiveSchool.Offering.Proposal
import DiveSchool.Offering.Slug
import DiveSchool.Desk.Basic
import DiveSchool.Ledger.Memory
import DiveSchool.Ledger.Relational
import DiveSchool.Database.Connection
import DiveSchool.Database.Migration
import DiveSchool.Settings.Document
import DiveSchool.Settings.Load
import DiveSchool.Main
import DiveSchool.Drill
import DiveSchool.Json.Reader
import DiveSchool.Json.Writer
import DiveSchool.Json.Document
import DiveSchool.Proofs.Protocol
import DiveSchool.Proofs.Traffic
import DiveSchool.Proofs.Capacity
import DiveSchool.Proofs.Admission
import DiveSchool.Proofs.Race
import DiveSchool.Proofs.Custody
import DiveSchool.Proofs.Balance
import DiveSchool.Proofs.Refusals
import DiveSchool.Proofs.Cancellation
import DiveSchool.Proofs.Restoration
import DiveSchool.Proofs.Backends
import DiveSchool.Proofs.Registration
import DiveSchool.Proofs.Outage
import DiveSchool.Proofs.Isolation
import DiveSchool.Proofs.Atomicity
import DiveSchool.Proofs.Books
import DiveSchool.Proofs.Minutes
import DiveSchool.Proofs.Recording
import DiveSchool.Proofs.Retrial
import DiveSchool.Proofs.Alone
import DiveSchool.Proofs.Draws
import DiveSchool.Proofs.FirstFree
import DiveSchool.Proofs.Seeding
import DiveSchool.Proofs.Decision
import DiveSchool.Proofs.Salience
import DiveSchool.Proofs.Format
import DiveSchool.Proofs.Grammar
import DiveSchool.Proofs.Counterparts
import DiveSchool.Proofs.Masking
import DiveSchool.Proofs.Grid
import DiveSchool.Proofs.Proposals
import DiveSchool.Proofs.Exhaustion
import DiveSchool.Proofs.Slug
import DiveSchool.Proofs.Adding
import DiveSchool.Proofs.Calendar
import DiveSchool.Proofs.Fields
import DiveSchool.Proofs.Identifiers
import DiveSchool.Proofs.Moments
import DiveSchool.Proofs.Documents
import DiveSchool.Proofs.Overlay
import DiveSchool.Proofs.Schema
import DiveSchool.Proofs.Layers
