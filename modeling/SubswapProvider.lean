import SubswapProvider.Library.Effect
import SubswapProvider.Library.Dict
import SubswapProvider.Bitcoin
import SubswapProvider.Invoices
import SubswapProvider.World
import SubswapProvider.Fees
import SubswapProvider.Lightning
import SubswapProvider.Swaps
import SubswapProvider.ClaimSwap
import SubswapProvider.System
import SubswapProvider.Frame
import SubswapProvider.Failing
import SubswapProvider.Reissue
import SubswapProvider.Following
import SubswapProvider.Reveal
import SubswapProvider.Holding
import SubswapProvider.Books
import SubswapProvider.Bookkeeping
import SubswapProvider.Held
import SubswapProvider.Settling
import SubswapProvider.Extracting
import SubswapProvider.Objects
import SubswapProvider.Retrying
import SubswapProvider.Dropping
import SubswapProvider.Foreign
import SubswapProvider.Moves
import SubswapProvider.Walking
import SubswapProvider.CallbackPass
import SubswapProvider.Throughout
import SubswapProvider.Provenance
import SubswapProvider.Sending
import SubswapProvider.Prepaying
import SubswapProvider.Hook
import SubswapProvider.Outliving
import SubswapProvider.Late
import SubswapProvider.Accounting
import SubswapProvider.Filing
import SubswapProvider.Replaying
import SubswapProvider.Durable
import SubswapProvider.Writing
import SubswapProvider.Responses
import SubswapProvider.Creating
import SubswapProvider.Limits
import SubswapProvider.Adding
import SubswapProvider.Funding
import SubswapProvider.Tallying
import SubswapProvider.Encoding
import SubswapProvider.Restarting
import SubswapProvider.Tasks
import SubswapProvider.Locking
import SubswapProvider.Library.Drain
import SubswapProvider.Wallet
import SubswapProvider.Searching
import SubswapProvider.Discovery
import SubswapProvider.NostrTransport
import SubswapProvider.Messages
import SubswapProvider.Watching
import SubswapProvider.Library.Radix
import SubswapProvider.Library.Checksum
import SubswapProvider.Bech32
import SubswapProvider.Bolt11
import SubswapProvider.FixedWidth
import SubswapProvider.Invoicing
import SubswapProvider.Timestamp
import SubswapProvider.Descriptor
import SubswapProvider.Handover
import SubswapProvider.Resuming
import SubswapProvider.Amounts
import SubswapProvider.Values
import SubswapProvider.Bumping
import SubswapProvider.Lockup
import SubswapProvider.Residue
import SubswapProvider.Expiring
import SubswapProvider.Library.JsonPatch
import SubswapProvider.JsonDb
import SubswapProvider.PatchLog
import SubswapProvider.FirstWrite
import SubswapProvider.Library.Wire
import SubswapProvider.Transactions
import SubswapProvider.Library.Rebase
import SubswapProvider.Scripts
import SubswapProvider.Canonical
import SubswapProvider.Saying
import SubswapProvider.Terms
import SubswapProvider.Claiming
import SubswapProvider.Redeeming
import SubswapProvider.Base58
import SubswapProvider.Addresses
import SubswapProvider.Turns
import SubswapProvider.Blocking
import SubswapProvider.Conserving
