import ValidatorGuardian.Basic
import ValidatorGuardian.Crates.Exponent
import ValidatorGuardian.Crates.IdentityJson
import ValidatorGuardian.Crates.NumBigint
import ValidatorGuardian.Crypto.Aggregation
import ValidatorGuardian.Eth2.Growable
import ValidatorGuardian.Eth2.Persistence
import ValidatorGuardian.Eth2.Deserializers
import ValidatorGuardian.Enclave.SecureSigner
import ValidatorGuardian.Client.Keygen
import ValidatorGuardian.Signing.Roots
import ValidatorGuardian.Signing.Sequential
import ValidatorGuardian.Signing.Guard
import ValidatorGuardian.Signing.Endpoint
import ValidatorGuardian.Signing.Concurrent
import ValidatorGuardian.Signing.Isolation
import ValidatorGuardian.Custody.KeyStore
import ValidatorGuardian.Custody.ShareSearch
import ValidatorGuardian.Custody.Approval
import ValidatorGuardian.Custody.Exit
import ValidatorGuardian.Custody.HonestFlow
import ValidatorGuardian.Custody.Refusal
import ValidatorGuardian.Custody.Malformed
import ValidatorGuardian.Custody.Commitment
import ValidatorGuardian.Custody.Attested
import ValidatorGuardian.Custody.SessionKey
import ValidatorGuardian.Custody.Issued
import ValidatorGuardian.Custody.KeygenTrace
import ValidatorGuardian.Custody.DepositPaths
import ValidatorGuardian.Io.Filed
import ValidatorGuardian.Custody.Concurrent
import ValidatorGuardian.Signing.Locked
import ValidatorGuardian.Signing.Decision
import ValidatorGuardian.Signing.KeyPool
import ValidatorGuardian.Eth2.Merkle
import ValidatorGuardian.Signing.Binding
import ValidatorGuardian.Custody.ExitAgreement
import ValidatorGuardian.Crates.SszTypes
import ValidatorGuardian.Eth2.Wire
import ValidatorGuardian.Enclave.Wire
import ValidatorGuardian.Enclave.Routes
import ValidatorGuardian.Client.Remote
