import ValidatorGuardian.Crates.Http
import ValidatorGuardian.Enclave.SecureSigner
import ValidatorGuardian.Enclave.Validator
import ValidatorGuardian.Enclave.Wire

/-!
# The routes of the enclaves

Each enclave is an application: its handlers call the functions of the enclave
and make responses of what they return.  The handlers that list keys read a
directory, which is no operation on a file; they are taken as given.
-/

namespace ValidatorGuardian

open Json (Codec)

/-! ## Responses -/

def StatusCode.code : StatusCode → ℕ
  | .OK => 200
  | .BAD_REQUEST => 400
  | .PRECONDITION_FAILED => 412
  | .INTERNAL_SERVER_ERROR => 500

def Response.toHttp (r : Response) : HttpResponse where
  status := r.status.code
  body := match r.body with
    | .text s => .text s
    | .format s e => .format s e
    | .json response => .json (SignatureResponse.codec.encode response)

def ValidatorDepositResponse.toHttp (r : ValidatorDepositResponse) :
    HttpResponse where
  status := r.status.code
  body := match r.body with
    | .text s => .text s
    | .format s e => .format s e
    | .json resp => .json (DepositResponse.codec.encode resp)

/-! ## Handlers -/

/-- A handler that answers with a document made of a result, and with an error
otherwise. -/
def respond {α β : Type} (status : ℕ) (codec : Codec β) (make : α → β)
    (failed : Error → HttpBody) (x : Enclave α) : Enclave HttpResponse := do
  match ← attempt x with
  | .ok a => return ⟨status, .json (codec.encode (make a))⟩
  | .error e => return ⟨500, failed e⟩

/-- The `health` handler. -/
def healthHandler : Enclave HttpResponse :=
  return ⟨200, .empty⟩

section Apps

variable [Blsttc] [Secp256k1] [KeySerde] [SerdeHex] [Hashing] [Eth2TreeHash]

section Guardian

variable [Ethers] [CvmAgentTypes]

/-! ## The guardian -/

/-- What a request to a guardian meets: the randomness, the agent, the session
registry, and the handler that lists the keys. -/
structure GuardianEnv where
  random : EthSecretKey
  agent : CvmAgent
  registry : SessionRegistry
  listEthKeysHandler : Enclave HttpResponse

namespace GuardianEnv

variable (env : GuardianEnv)

/-- The `attest_fresh_eth_key_with_blockhash` handler. -/
def attestFreshEthKeyHandler (request : KeygenWithBlockhashRequest) :
    Enclave HttpResponse :=
  respond 201 KeyGenResponse.codec
    (fun out => KeyGenResponse.fromEthKey out.2 out.1)
    (.format "eth_key_gen_with_blockhash_service failed: ")
    (attestNewEthKeyWithBlockhash env.random env.agent request.blockNumber
      request.guardianModuleAddress request.chainId)

/-- The `validate_custody` handler. -/
def validateCustodyHandler (request : ValidateCustodyRequest) :
    Enclave HttpResponse :=
  respond 200 ValidateCustodyResponse.codec id .display
    (verifyAndSignCustodyReceived env.registry request)

omit [Ethers] [CvmAgentTypes] [KeySerde] in
/-- The `sign_exit` handler. -/
def signExitHandler (request : SignExitRequest) : Enclave HttpResponse :=
  respond 200 SignExitResponse.codec id .display
    (signVoluntaryExitMessage request)

/-- The application of the guardian. -/
def app : App :=
  [⟨.GET, fixed ["upcheck"], .plain healthHandler⟩,
    ⟨.POST, fixed ["eth", "v1", "keygen"],
      .json KeygenWithBlockhashRequest.codec env.attestFreshEthKeyHandler⟩,
    ⟨.GET, fixed ["eth", "v1", "keygen"], .plain env.listEthKeysHandler⟩,
    ⟨.POST, fixed ["guardian", "v1", "validate-custody"],
      .json ValidateCustodyRequest.codec env.validateCustodyHandler⟩,
    ⟨.POST, fixed ["guardian", "v1", "sign-exit"],
      .json SignExitRequest.codec signExitHandler⟩]

theorem selects_keygen : env.app.Selects
    ⟨.POST, fixed ["eth", "v1", "keygen"],
      .json KeygenWithBlockhashRequest.codec env.attestFreshEthKeyHandler⟩
    ["eth", "v1", "keygen"] := by
  constructor <;> simp [app, Route.Fits, forall₂_fixed]

theorem selects_validateCustody : env.app.Selects
    ⟨.POST, fixed ["guardian", "v1", "validate-custody"],
      .json ValidateCustodyRequest.codec env.validateCustodyHandler⟩
    ["guardian", "v1", "validate-custody"] := by
  constructor <;> simp [app, Route.Fits, forall₂_fixed]

theorem selects_signExit : env.app.Selects
    ⟨.POST, fixed ["guardian", "v1", "sign-exit"],
      .json SignExitRequest.codec signExitHandler⟩
    ["guardian", "v1", "sign-exit"] := by
  constructor <;> simp [app, Route.Fits, forall₂_fixed]

end GuardianEnv

end Guardian

/-! ## The validator and the secure signer -/

/-- What a request to a validator or a secure signer meets: the randomness, the
agent, and the handlers that list keys.  The fork version is the state of the
application. -/
structure SignerEnv where
  blsRandom : Blsttc.SecretKeySet
  ethRandom : EthSecretKey
  seeds : ℕ → Secp256k1.Seed
  agent : CvmAgent
  listEthKeysHandler : Enclave HttpResponse
  listBlsKeysHandler : Enclave HttpResponse
  listBlsKeysForVcHandler : Enclave HttpResponse
  genesisForkVersion : Version

namespace SignerEnv

variable (env : SignerEnv)

/-- The `attest_fresh_bls_key` handler. -/
def attestFreshBlsKeyHandler (keygenPayload : AttestFreshBlsKeyPayload) :
    Enclave HttpResponse :=
  respond 201 BlsKeygenPayload.codec id (fun _ => .empty)
    (attestFreshBlsKey env.blsRandom env.seeds env.agent
      keygenPayload.withdrawalCredentials keygenPayload.guardianPubkeys
      keygenPayload.threshold keygenPayload.forkVersion
      keygenPayload.doRemoteAttestation)

omit [Hashing] [Eth2TreeHash] in
/-- The `eth_keygen` handler. -/
def ethKeygenHandler : Enclave HttpResponse :=
  respond 201 KeyGenResponse.codec
    (fun out => KeyGenResponse.fromEthKey out.2 out.1)
    (.format "eth_key_gen_service failed: ")
    (attestNewEthKey env.ethRandom env.agent)

omit [Hashing] [Eth2TreeHash] in
/-- The `bls_keygen` handler. -/
def blsKeygenHandler : Enclave HttpResponse :=
  respond 201 KeyGenResponse.codec
    (fun out => KeyGenResponse.fromBlsKey out.2 out.1)
    (.format "bls_key_gen_service failed: ")
    (attestNewBlsKey env.blsRandom env.agent)

omit [KeySerde] in
/-- The `validator_deposit` handler. -/
def depositHandler (r : DepositRequest) : Enclave HttpResponse := do
  let response ← validatorDepositHandler r
  return response.toHttp

variable [SszSerde] [NumBigint]

omit [KeySerde] in
/-- The `secure_sign_bls` handler. -/
def secureSignBlsHandler (blsPkHex : Str) (req : BLSSignMsg) :
    Enclave HttpResponse := do
  let response ← signValidatorMessage blsPkHex env.genesisForkVersion req
  return response.toHttp

/-- The route of a signing request. -/
def signRoute : Route :=
  ⟨.POST, fixed ["api", "v1", "eth2", "sign"] ++ [.capture "bls_pk_hex"],
    .pathJson BLSSignMsg.codec env.secureSignBlsHandler⟩

/-- The application of the validator. -/
def validatorApp : App :=
  [⟨.GET, fixed ["upcheck"], .plain healthHandler⟩,
    ⟨.POST, fixed ["bls", "v1", "keygen"],
      .json AttestFreshBlsKeyPayload.codec env.attestFreshBlsKeyHandler⟩,
    ⟨.GET, fixed ["eth", "v1", "keystores"], .plain env.listBlsKeysHandler⟩,
    ⟨.GET, fixed ["api", "v1", "eth2", "publicKeys"],
      .plain env.listBlsKeysForVcHandler⟩,
    env.signRoute]

theorem selects_keygen : env.validatorApp.Selects
    ⟨.POST, fixed ["bls", "v1", "keygen"],
      .json AttestFreshBlsKeyPayload.codec env.attestFreshBlsKeyHandler⟩
    ["bls", "v1", "keygen"] := by
  constructor <;>
    simp [validatorApp, signRoute, Route.Fits, forall₂_fixed, forall₂_capture]

theorem validatorApp_selects_sign (part : String) :
    env.validatorApp.Selects env.signRoute
      (["api", "v1", "eth2", "sign"] ++ [part]) := by
  constructor <;>
    simp [validatorApp, signRoute, Route.Fits, forall₂_fixed, forall₂_capture]

/-- The application of the secure signer, in which the routes under `/eth/v1`
are nested. -/
def secureSignerApp : App :=
  [⟨.GET, fixed ["upcheck"], .plain healthHandler⟩,
    ⟨.POST, fixed ["eth", "v1", "keygen", "secp256k1"],
      .plain env.ethKeygenHandler⟩,
    ⟨.POST, fixed ["eth", "v1", "keygen", "bls"],
      .plain env.blsKeygenHandler⟩,
    ⟨.GET, fixed ["eth", "v1", "keygen", "secp256k1"],
      .plain env.listEthKeysHandler⟩,
    ⟨.GET, fixed ["eth", "v1", "keystores"], .plain env.listBlsKeysHandler⟩,
    ⟨.POST, fixed ["api", "v1", "eth2", "deposit"],
      .json DepositRequest.codec depositHandler⟩,
    env.signRoute]

theorem selects_ethKeygen : env.secureSignerApp.Selects
    ⟨.POST, fixed ["eth", "v1", "keygen", "secp256k1"],
      .plain env.ethKeygenHandler⟩
    ["eth", "v1", "keygen", "secp256k1"] := by
  constructor <;> simp [secureSignerApp, signRoute, Route.Fits, forall₂_fixed,
    forall₂_capture]

theorem selects_blsKeygen : env.secureSignerApp.Selects
    ⟨.POST, fixed ["eth", "v1", "keygen", "bls"], .plain env.blsKeygenHandler⟩
    ["eth", "v1", "keygen", "bls"] := by
  constructor <;> simp [secureSignerApp, signRoute, Route.Fits, forall₂_fixed,
    forall₂_capture]

theorem secureSignerApp_selects_sign (part : String) :
    env.secureSignerApp.Selects env.signRoute
      (["api", "v1", "eth2", "sign"] ++ [part]) := by
  constructor <;> simp [secureSignerApp, signRoute, Route.Fits, forall₂_fixed,
    forall₂_capture]

end SignerEnv

end Apps

end ValidatorGuardian
