import TokenClaim.Ledger.Run
import TokenClaim.Main
import TokenClaim.Proofs.Attestation.Quorum
import TokenClaim.Proofs.Ledger.Counters
import TokenClaim.Proofs.Ledger.Entitlement
import TokenClaim.Proofs.Ledger.History
import TokenClaim.Proofs.Ledger.Lamports
import TokenClaim.Proofs.Ledger.Records
import TokenClaim.Proofs.Ledger.Solvency
import TokenClaim.Proofs.Ledger.Tokens
import TokenClaim.Proofs.Ledger.Totals
import TokenClaim.Proofs.Record.RoundTrip
import TokenClaim.Proofs.Pricing.ExactCost
import TokenClaim.Proofs.Pricing.Splitting
import TokenClaim.Proofs.Ledger.PathIndependence
import TokenClaim.Proofs.Merkle.Levels
import TokenClaim.Proofs.Merkle.Soundness
import TokenClaim.Proofs.Record.Allocations
import TokenClaim.Proofs.Descriptor.Acceptance
import TokenClaim.Proofs.Record.Canonical
import TokenClaim.Proofs.Ledger.AuthorizationModes
import TokenClaim.Proofs.Ledger.Markers
import TokenClaim.Proofs.Refusals
import TokenClaim.Proofs.Ledger.Redemption
import TokenClaim.Proofs.Ledger.Transactions
import TokenClaim.Proofs.Ledger.Settlement
import TokenClaim.Proofs.Ledger.Journal
import TokenClaim.Proofs.Descriptor.RoundTrip
import TokenClaim.Proofs.Ledger.Permanence
import TokenClaim.Proofs.Ledger.Quotes
import TokenClaim.Proofs.Ledger.Readable
import TokenClaim.Proofs.Descriptor.Admission
import TokenClaim.Proofs.Record.Header
import TokenClaim.Proofs.Ledger.Attestations
import TokenClaim.Proofs.Merkle.Commitment
import TokenClaim.Proofs.Merkle.Completeness
import TokenClaim.Proofs.Attestation.Agreement
import TokenClaim.Proofs.Ledger.PriceRefusals
import TokenClaim.Proofs.Ledger.Creation
import TokenClaim.Proofs.Descriptor.Truncation
import TokenClaim.Proofs.Attestation.Unanimity
import TokenClaim.Proofs.SourceAmount
import TokenClaim.Proofs.Ledger.FirstUnit
import TokenClaim.Proofs.Record.Details
import TokenClaim.Proofs.FileContent
import TokenClaim.Proofs.Text.Base58
import TokenClaim.Proofs.HexQuantity
import TokenClaim.Proofs.ProgramAddress
