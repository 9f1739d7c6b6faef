import Provisioning.Main
import Provisioning.Proofs.Batch.Address
import Provisioning.Proofs.Batch.Columns
import Provisioning.Proofs.Batch.Cursor
import Provisioning.Proofs.Batch.Detection
import Provisioning.Proofs.Batch.Reversal
import Provisioning.Proofs.Batch.Stream
import Provisioning.Proofs.Es2.Discretion
import Provisioning.Proofs.Es2.Identifier
import Provisioning.Proofs.Es2.Posting
import Provisioning.Proofs.Es2.Refusal
import Provisioning.Proofs.Es2.Rereading
import Provisioning.Proofs.Es2.Resumption
import Provisioning.Proofs.Settings.RoundTrip
import Provisioning.Proofs.Batch.Limits
import Provisioning.Proofs.Batch.Width
import Provisioning.Proofs.Batch.Writing
import Provisioning.Proofs.Ini.Layout
import Provisioning.Proofs.Settings.Lookup
import Provisioning.Proofs.Cli.Precedence
