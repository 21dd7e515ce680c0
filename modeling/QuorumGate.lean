import QuorumGate.Proofs.Concurrency.Accounting
import QuorumGate.Proofs.Concurrency.Contest
import QuorumGate.Proofs.Concurrency.Creating
import QuorumGate.Proofs.Concurrency.History
import QuorumGate.Proofs.Concurrency.Listing
import QuorumGate.Proofs.Concurrency.Moments
import QuorumGate.Proofs.Concurrency.Payloads
import QuorumGate.Proofs.Concurrency.Signers
import QuorumGate.Proofs.Concurrency.Timeline
import QuorumGate.Proofs.Deploying.Outcomes
import QuorumGate.Proofs.Json.CanonicalPayload
import QuorumGate.Proofs.Registry.ConditionalUpdate
import QuorumGate.Proofs.Sequential.Alone
import QuorumGate.Proofs.Sequential.Sweeps
import QuorumGate.Proofs.Surface.Correlated
import QuorumGate.Rehearsal.Exchange
import QuorumGate.Rehearsal.Play
import QuorumGate.Verbosity
import QuorumGate.Proofs.Sequential.Refusals
import QuorumGate.Proofs.Sequential.Pending
import QuorumGate.Proofs.Concurrency.Staleness
import QuorumGate.Proofs.Concurrency.Catching
import QuorumGate.Proofs.Concurrency.Failures
import QuorumGate.Proofs.Sequential.DueProposals
import QuorumGate.Proofs.Deploying.Reports
import QuorumGate.Proofs.Sweeping.Rounds
import QuorumGate.Proofs.Registry.Supplies
import QuorumGate.Proofs.Registry.Leaks
import QuorumGate.Proofs.Text.PercentEscapes
import QuorumGate.Proofs.Transport.UrlParts
import QuorumGate.Proofs.Deploying.Endpoints
import QuorumGate.Proofs.Registry.PolicyListings
import QuorumGate.Proofs.Concurrency.PolicyBook
import QuorumGate.Proofs.Evaluation
import QuorumGate.Proofs.Store.CompareAndSet
import QuorumGate.Proofs.Text.Digests
import QuorumGate.Proofs.ProposalDrafts
import QuorumGate.Proofs.Sequential.Proposing
import QuorumGate.Proofs.Sequential.Apart
