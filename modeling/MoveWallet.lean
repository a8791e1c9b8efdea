import MoveWallet.Account.Address
import MoveWallet.Account.Archive
import MoveWallet.Account.Digest32
import MoveWallet.Account.ObjectId
import MoveWallet.Auth.Authenticator
import MoveWallet.Auth.Keypair
import MoveWallet.Auth.PublicKey
import MoveWallet.Auth.Scheme
import MoveWallet.Auth.SignedMessage
import MoveWallet.Base58
import MoveWallet.Bech32
import MoveWallet.Bitcoin.Address
import MoveWallet.Bitcoin.CompactSize
import MoveWallet.Bitcoin.Network
import MoveWallet.Bytes.Endian
import MoveWallet.Bytes.Fixed
import MoveWallet.Command.Fault
import MoveWallet.Command.Folder
import MoveWallet.Command.Invocation
import MoveWallet.Command.Run
import MoveWallet.Command.Summary
import MoveWallet.Command.TypedArgument
import MoveWallet.Config.Directive
import MoveWallet.Config.Logging
import MoveWallet.Config.Network
import MoveWallet.Config.Pattern
import MoveWallet.Config.Settings
import MoveWallet.Curve.Ecdsa
import MoveWallet.Curve.Ed25519
import MoveWallet.Curve.Modular
import MoveWallet.Curve.Secp256k1
import MoveWallet.Curve.Taproot
import MoveWallet.Digest.Blake2b
import MoveWallet.Digest.Sha2
import MoveWallet.Digest.Sha3
import MoveWallet.Document.Field
import MoveWallet.Document.Json
import MoveWallet.Document.Toml
import MoveWallet.Document.Value
import MoveWallet.Main
import MoveWallet.Move.Argument
import MoveWallet.Move.FunctionId
import MoveWallet.Move.Identifier
import MoveWallet.Move.TypeTag.Basic
import MoveWallet.Move.TypeTag.Parser
import MoveWallet.Move.TypeTag.Wire
import MoveWallet.Nostr.Address
import MoveWallet.Proofs.Account.AddressForms
import MoveWallet.Proofs.Account.AddressText
import MoveWallet.Proofs.Account.ObjectForms
import MoveWallet.Proofs.Account.ObjectPath
import MoveWallet.Proofs.Account.Wire
import MoveWallet.Proofs.Auth.Authenticator
import MoveWallet.Proofs.Auth.Completeness
import MoveWallet.Proofs.Auth.Export
import MoveWallet.Proofs.Auth.Frame
import MoveWallet.Proofs.Auth.Import
import MoveWallet.Proofs.Auth.Key
import MoveWallet.Proofs.Auth.SignatureForms
import MoveWallet.Proofs.Auth.Soundness
import MoveWallet.Proofs.Auth.Spelling
import MoveWallet.Proofs.Base58.Text
import MoveWallet.Proofs.Bech32.Canonical
import MoveWallet.Proofs.Bech32.Checksum
import MoveWallet.Proofs.Bech32.Groups
import MoveWallet.Proofs.Bech32.Spelling
import MoveWallet.Proofs.Bech32.Text
import MoveWallet.Proofs.Bitcoin.Beginning
import MoveWallet.Proofs.Bitcoin.Canonical
import MoveWallet.Proofs.Bitcoin.CompactSize
import MoveWallet.Proofs.Bitcoin.Hint
import MoveWallet.Proofs.Bitcoin.Taproot
import MoveWallet.Proofs.Bitcoin.Witness
import MoveWallet.Proofs.Bitcoin.Wrapped
import MoveWallet.Proofs.Bytes.Endian
import MoveWallet.Proofs.Command.AnyAddress
import MoveWallet.Proofs.Command.SignVerify
import MoveWallet.Proofs.Command.TypedArgument
import MoveWallet.Proofs.Curve.Key
import MoveWallet.Proofs.Curve.Modular
import MoveWallet.Proofs.Curve.Parity
import MoveWallet.Proofs.Move.FunctionIdText
import MoveWallet.Proofs.Move.Parameters
import MoveWallet.Proofs.Move.StructTagAlone
import MoveWallet.Proofs.Move.StructTagText
import MoveWallet.Proofs.Move.TypeTagForms
import MoveWallet.Proofs.Move.TypeTagParser
import MoveWallet.Proofs.Move.TypeTagText
import MoveWallet.Proofs.Move.TypeTagWire
import MoveWallet.Proofs.Nostr.Account
import MoveWallet.Proofs.Schema.Canonicity
import MoveWallet.Proofs.Schema.Guard
import MoveWallet.Proofs.Schema.Session
import MoveWallet.Proofs.Schema.Size
import MoveWallet.Proofs.Schema.Stream
import MoveWallet.Proofs.Text.Blank
import MoveWallet.Proofs.Text.Hex
import MoveWallet.Proofs.Text.HexNumber
import MoveWallet.Proofs.Text.Numeral
import MoveWallet.Proofs.Text.Reading
import MoveWallet.Proofs.Text.Separator
import MoveWallet.Proofs.Text.Utf8
import MoveWallet.Proofs.Transaction.Hex
import MoveWallet.Proofs.Transaction.Identity
import MoveWallet.Proofs.Transaction.RoundTrip
import MoveWallet.Proofs.Transaction.Signing
import MoveWallet.Proofs.Transaction.Soundness
import MoveWallet.Proofs.Transaction.Wire
import MoveWallet.Proofs.Wire.Advance
import MoveWallet.Proofs.Wire.Answer
import MoveWallet.Proofs.Wire.Cursor
import MoveWallet.Proofs.Wire.Law
import MoveWallet.Proofs.Wire.Reader
import MoveWallet.Proofs.Wire.Solid
import MoveWallet.Proofs.Wire.Uleb128
import MoveWallet.Schema.Basic
import MoveWallet.Schema.Document
import MoveWallet.Schema.Name
import MoveWallet.Schema.Session
import MoveWallet.Text.Alphanumeric
import MoveWallet.Text.Blank
import MoveWallet.Text.CodeRange
import MoveWallet.Text.Hex
import MoveWallet.Text.Numeral
import MoveWallet.Text.Quoted
import MoveWallet.Text.Separator
import MoveWallet.Text.Unprintable
import MoveWallet.Text.Utf8
import MoveWallet.Transaction.Action
import MoveWallet.Transaction.Body
import MoveWallet.Transaction.Ledger
import MoveWallet.Transaction.Signed
import MoveWallet.Wire.Codec
import MoveWallet.Wire.Decoder
import MoveWallet.Wire.Uleb128
import MoveWallet.Proofs.Wire.Uleb128Answers
import MoveWallet.Proofs.Move.AtomicEntries
import MoveWallet.Proofs.Command.Report
