import Airgap.Buffer
import Airgap.Digest.Hmacs
import Airgap.Main
import Airgap.Proofs.Curve.Prime
import Airgap.Proofs.Curve.Residue
import Airgap.Proofs.Curve.Group
import Airgap.Proofs.Curve.Addition
import Airgap.Proofs.Curve.Multiple
import Airgap.Proofs.Curve.Encoding
import Airgap.Proofs.Curve.Sec1
import Airgap.Proofs.Curve.Fitting
import Airgap.Proofs.KeyTree.Fields
import Airgap.Proofs.KeyTree.Counterpart
import Airgap.Proofs.Bytes
import Airgap.Proofs.Checksum.Base58
import Airgap.Proofs.KeyTree.Serialization
import Airgap.Proofs.KeyTree.PublicKey
import Airgap.Proofs.KeyTree.Reading
import Airgap.Proofs.KeyTree.Derivation
import Airgap.Proofs.KeyTree.Path
import Airgap.Proofs.Text.CodeMask
import Airgap.Proofs.Text.Tables
import Airgap.Proofs.Text.NormalForm
import Airgap.Proofs.Text.Blank
import Airgap.Proofs.Text.Digit
import Airgap.Proofs.Text.Lower
import Airgap.Proofs.Text.Runs
import Airgap.Proofs.Text.Surrogate
import Airgap.Proofs.Mnemonic.Spelling
import Airgap.Proofs.WordList
import Airgap.Proofs.Mnemonic.Places
import Airgap.Proofs.Mnemonic.Bip39
import Airgap.Proofs.Mnemonic.Electrum
import Airgap.Proofs.Digest.Construction
import Airgap.Proofs.Digest.Padding
import Airgap.Proofs.Digest.Hashers
import Airgap.Proofs.Digest.Hmac
import Airgap.Proofs.Digest.Hmacs
import Airgap.Proofs.Digest.Pbkdf2
import Airgap.Proofs.Digest.Published
import Airgap.Proofs.Digest.Tables
import Airgap.Proofs.Digest.Masked
import Airgap.Proofs.Digest.Rounds
import Airgap.Proofs.Digest.Compression
import Airgap.Proofs.Entropy.Bits
import Airgap.Proofs.Entropy.Pool
import Airgap.Proofs.Entropy.Stream
import Airgap.Proofs.Entropy.Collector
import Airgap.Proofs.Entropy.Lifecycle
import Airgap.Proofs.Entropy.Collection
import Airgap.Proofs.Entropy.BitSequence
import Airgap.Proofs.Entropy.PoolSafety
import Airgap.Proofs.Entropy.Compression
import Airgap.Proofs.Entropy.Unbiased
import Airgap.Proofs.Entropy.PairBias
import Airgap.Proofs.Session.Saying
import Airgap.Proofs.Session.Rolls
import Airgap.Proofs.Session.Wallet
import Airgap.Proofs.Session.Lines
import Airgap.Proofs.Mnemonic.ElectrumForm
import Airgap.Proofs.Mnemonic.Phrase
import Airgap.Proofs.Mnemonic.Seed
import Airgap.Proofs.Mnemonic.Typing
import Airgap.Proofs.WordList.Search
import Airgap.Proofs.WordList.Audit
import Airgap.Proofs.WordList.Lookup
import Airgap.Proofs.Mnemonic.Raw
import Airgap.Proofs.Mnemonic.ElectrumInverse
import Airgap.Proofs.Mnemonic.Decoding
import Airgap.Proofs.Health.Exact
import Airgap.Proofs.Health.Sample
import Airgap.Proofs.Health.Leading
import Airgap.Proofs.Health.Cycle
import Airgap.Proofs.Health.Summary
import Airgap.Proofs.Health.Majority
import Airgap.Proofs.Entropy.HealthCheck
import Airgap.Proofs.Entropy.StuckSource
import Airgap.Proofs.Health.Definedness
