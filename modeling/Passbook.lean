import Passbook.Main
import Passbook.Repository.Faulty
import Passbook.Proofs.Store.Commands
import Passbook.Proofs.Traffic.Identity
import Passbook.Proofs.Amount.Rounding
import Passbook.Proofs.Amount.Total
import Passbook.Proofs.Manager.Session
import Passbook.Proofs.Manager.Balance
import Passbook.Proofs.Amount.Normal
import Passbook.Proofs.Manager.Direct
import Passbook.Proofs.Manager.Room
import Passbook.Proofs.Manager.Ideal
import Passbook.Proofs.Manager.Reordering
import Passbook.Proofs.Traffic.AllOrNothing
import Passbook.Proofs.Service.Exchange
import Passbook.Proofs.Service.Retry
import Passbook.Proofs.Traffic.AppendOnly
import Passbook.Proofs.Traffic.Commit
import Passbook.Proofs.Traffic.Isolation
import Passbook.Proofs.Traffic.Linearization
import Passbook.Proofs.Service.Responses
import Passbook.Proofs.History.Pages
import Passbook.Proofs.Amount.Reading
import Passbook.Proofs.Traffic.PageWalk
import Passbook.Proofs.Repository.Journal
import Passbook.Proofs.Manager.Relay
import Passbook.Proofs.Json.Rendering
import Passbook.Proofs.Service.Refusals
import Passbook.Proofs.Work.Interruption
import Passbook.Proofs.Store.Paging
import Passbook.Proofs.Amount.Printing
import Passbook.Proofs.Identity.Derivation
import Passbook.Proofs.Uuid.Printing
import Passbook.Proofs.Json.Numbers
import Passbook.Proofs.Amount.Sending
import Passbook.Proofs.Json.Records
import Passbook.Proofs.Service.Reachable
import Passbook.Proofs.Service.Resubmission
import Passbook.Proofs.Amount.Monotone
import Passbook.Proofs.Manager.Growth
import Passbook.Proofs.Manager.Overflow
import Passbook.Proofs.Service.Stages
import Passbook.Proofs.Instant.Printing
import Passbook.Proofs.Json.Arrays
import Passbook.Proofs.Wire.Basic
import Passbook.Proofs.Wire.Stored
import Passbook.Proofs.Signal.Watch
import Passbook.Proofs.Signal.Families
import Passbook.Proofs.Work.Reasons
import Passbook.Proofs.Traffic.Log
