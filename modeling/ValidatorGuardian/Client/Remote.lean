import ValidatorGuardian.Custody.Payload
import ValidatorGuardian.Enclave.Routes

/-!
# Clients

A client writes its arguments into a request and reads the response.  A call
of a client is a program of the server's file operations: it is the call of the
function behind the route, unless the network loses the request or the
response.
-/

namespace ValidatorGuardian

open Effect
open Json (Codec)

/-! ## Requests of clients -/

section Calls

variable [Http] (link : Link) (app : App)

/-- `client.get(url)` or `client.post(url)`, and `send`. -/
def send (method : Method) (parts : List String)
    (body : Option Json.Value) : Client HttpResponse :=
  Http.exchange link app
    { method := method, path := urlPath parts, body := body }

/-- `resp.json()`. -/
def HttpResponse.parsed {α : Type} (codec : Codec α) (resp : HttpResponse) :
    Except ClientError α :=
  match resp.body with
  | .json doc => (codec.decode doc).elim (.error .decode) .ok
  | _ => .error .decode

/-- The body of a success; otherwise its text is the error. -/
def HttpResponse.checked {α : Type} (codec : Codec α) (resp : HttpResponse) :
    Except ClientError α :=
  if 200 ≤ resp.status ∧ resp.status < 300 then resp.parsed codec
  else .error (.refused resp.body)

namespace GuardianClient

variable [Secp256k1] [KeySerde] [SerdeHex]

def attestFreshEthKey (blockNumber : UInt64) (guardianModuleAddress : Str)
    (chainId : UInt64) : Client KeyGenResponse := do
  let data : KeygenWithBlockhashRequest := {
    blockNumber := blockNumber
    guardianModuleAddress := guardianModuleAddress
    chainId := chainId }
  let resp ← send link app .POST ["eth", "v1", "keygen"]
    (some (KeygenWithBlockhashRequest.codec.encode data))
  ExceptT.mk (.ret (resp.checked KeyGenResponse.codec))

def validateCustody (request : ValidateCustodyRequest) :
    Client ValidateCustodyResponse := do
  let resp ← send link app .POST ["guardian", "v1", "validate-custody"]
    (some (ValidateCustodyRequest.codec.encode request))
  ExceptT.mk (.ret (resp.checked ValidateCustodyResponse.codec))

omit [Secp256k1] [KeySerde] in
def signExit (request : SignExitRequest) : Client SignExitResponse := do
  let resp ← send link app .POST ["guardian", "v1", "sign-exit"]
    (some (SignExitRequest.codec.encode request))
  ExceptT.mk (.ret (resp.checked SignExitResponse.codec))

end GuardianClient

namespace ValidatorClient

def attestFreshBlsKey [Secp256k1] [KeySerde]
    (payload : AttestFreshBlsKeyPayload) : Client BlsKeygenPayload := do
  let resp ← send link app .POST ["bls", "v1", "keygen"]
    (some (AttestFreshBlsKeyPayload.codec.encode payload))
  ExceptT.mk (.ret (resp.checked BlsKeygenPayload.codec))

def signVoluntaryExitMessage [SerdeHex] [SszSerde] [NumBigint] (blsPkHex : Str)
    (epoch : Epoch) (validatorIndex : ValidatorIndex) (forkInfo : ForkInfo) :
    Client SignatureResponse := do
  let blsPkHex := strip0xPrefix blsPkHex
  let vem : VoluntaryExitRequest := {
    signingRoot := none
    forkInfo := forkInfo
    voluntaryExit := {
      epoch := epoch
      validatorIndex := validatorIndex } }
  let req := BLSSignMsg.VOLUNTARY_EXIT vem
  let resp ← send link app .POST
    ["api", "v1", "eth2", "sign", String.ofList blsPkHex]
    (some (BLSSignMsg.codec.encode req))
  ExceptT.mk (.ret (resp.checked SignatureResponse.codec))

end ValidatorClient

/-! The client of the secure signer does not look at the status. -/

namespace SecureSignerClient

def generateEthKey [Secp256k1] [KeySerde] : Client KeyGenResponse := do
  let resp ← send link app .POST ["eth", "v1", "keygen", "secp256k1"] none
  ExceptT.mk (.ret (resp.parsed KeyGenResponse.codec))

def generateBlsKey [Secp256k1] [KeySerde] : Client KeyGenResponse := do
  let resp ← send link app .POST ["eth", "v1", "keygen", "bls"] none
  ExceptT.mk (.ret (resp.parsed KeyGenResponse.codec))

def secureSignBls [SerdeHex] [SszSerde] [NumBigint] (publicKeyHex : Str)
    (signingData : BLSSignMsg) : Client SignatureResponse := do
  let resp ← send link app .POST
    ["api", "v1", "eth2", "sign", String.ofList publicKeyHex]
    (some (BLSSignMsg.codec.encode signingData))
  ExceptT.mk (.ret (resp.parsed SignatureResponse.codec))

end SecureSignerClient

end Calls

/-! ## What a call carries -/

section Carry

variable {α β γ : Type} {link : Link}

/-- What is made of the result of code, or what a client makes of its error. -/
def answered (make : α → β) (refuse : Error → ClientError) (x : Enclave α) :
    Enclave (Except ClientError β) := do
  match ← attempt x with
  | .ok a => return .ok (make a)
  | .error e => return .error (refuse e)

theorem carry_ok_bind (x : Enclave α) (g : α → Except ClientError β) :
    (link.carry .ok x >>= fun a => ExceptT.mk (.ret (g a))) =
      link.carry g x := by
  cases link with
  | losesRequest => rfl
  | losesResponse => exact Program.bind_assoc ..
  | delivers =>
      refine (Program.bind_assoc ..).trans ?_
      congr 1
      funext r
      cases r <;> rfl

theorem carry_map (x : Enclave α) (f : α → β)
    (g : β → Except ClientError γ) :
    link.carry g (x >>= fun a => pure (f a)) =
      link.carry (fun a => g (f a)) x := by
  cases link with
  | losesRequest => rfl
  | losesResponse | delivers =>
      refine (Program.bind_assoc ..).trans ?_
      congr 1
      funext r
      cases r <;> rfl

theorem HttpResponse.parsed_encode (codec : Codec α) [codec.Lossless]
    (status : ℕ) (a : α) :
    HttpResponse.parsed codec ⟨status, .json (codec.encode a)⟩ = .ok a := by
  have hback : codec.decode (codec.encode a) = some a := Codec.Lossless.back a
  simp [HttpResponse.parsed, hback]

theorem HttpResponse.checked_encode (codec : Codec α) [codec.Lossless]
    {status : ℕ} (hstatus : 200 ≤ status ∧ status < 300) (a : α) :
    HttpResponse.checked codec ⟨status, .json (codec.encode a)⟩ = .ok a := by
  rw [checked, if_pos hstatus, parsed_encode]

theorem HttpResponse.checked_error (codec : Codec α) (body : HttpBody) :
    HttpResponse.checked codec ⟨500, body⟩ = .error (.refused body) :=
  if_neg (by simp)

/-- A result that is answered is what the client reads, and an error is what
it makes of the answer. -/
theorem carry_respond {codec : Codec β} {status : ℕ} {make : α → β}
    {failed : Error → HttpBody} {x : Enclave α}
    {read : HttpResponse → Except ClientError β}
    {refuse : Error → ClientError}
    (hok : ∀ b, read ⟨status, .json (codec.encode b)⟩ = .ok b)
    (herror : ∀ e, read ⟨500, failed e⟩ = .error (refuse e)) :
    link.carry read (respond status codec make failed x) =
      link.carry id (answered make refuse x) := by
  have hrespond : respond status codec make failed x =
      attempt x >>= fun r => pure (match r with
        | .ok a => ⟨status, .json (codec.encode (make a))⟩
        | .error e => ⟨500, failed e⟩) := by
    unfold respond
    congr 1
    funext r
    cases r <;> rfl
  have hanswered : answered make refuse x =
      attempt x >>= fun r => pure (match r with
        | .ok a => Except.ok (make a)
        | .error e => .error (refuse e)) := by
    unfold answered
    congr 1
    funext r
    cases r <;> rfl
  rw [hrespond, carry_map, hanswered, carry_map]
  congr 1
  funext r
  cases r with
  | ok a => exact hok (make a)
  | error e => exact herror e

section Send

variable [Http] {app : App} {method : Method} {path : List Segment}
  {parts : List String}

/-- A call without a document runs the handler. -/
theorem send_bind (http : Http.Laws) {handler : Enclave HttpResponse}
    (hselects : app.Selects ⟨method, path, .plain handler⟩ parts)
    (hplain : ∀ part ∈ parts, PlainSegment part)
    (read : HttpResponse → Except ClientError β) :
    (send link app method parts none >>= fun resp =>
        ExceptT.mk (.ret (read resp))) = link.carry read handler := by
  rw [send, http.plain hselects hplain]
  exact carry_ok_bind ..

/-- A document arrives as what has been written into it. -/
theorem post_bind (http : Http.Laws) {codec : Codec α} [codec.Lossless]
    {handler : α → Enclave HttpResponse}
    (hselects : app.Selects ⟨method, path, .json codec handler⟩ parts)
    (hplain : ∀ part ∈ parts, PlainSegment part) (a : α)
    (hlength : Http.contentLength (codec.encode a) ≤ BODY_LIMIT)
    (read : HttpResponse → Except ClientError β) :
    (send link app method parts (some (codec.encode a)) >>= fun resp =>
        ExceptT.mk (.ret (read resp))) = link.carry read (handler a) := by
  have hback : codec.decode (codec.encode a) = some a := Codec.Lossless.back a
  rw [send, http.json hselects hplain hlength, hback]
  exact carry_ok_bind ..

end Send

end Carry

/-! ## Calls of a guardian -/

section Guardian

variable [Blsttc] [Secp256k1] [KeySerde] [SerdeHex] [Hashing] [Eth2TreeHash]
  [Ethers] [CvmAgentTypes] [Http]

/-- The calls of a guardian's client that send a document, by the type of their
results. -/
inductive GuardianCall : Type → Type
  | attestFreshEthKey (blockNumber : UInt64) (guardianModuleAddress : Str)
      (chainId : UInt64) : GuardianCall KeyGenResponse
  | validateCustody (request : ValidateCustodyRequest) :
      GuardianCall ValidateCustodyResponse
  | signExit (request : SignExitRequest) : GuardianCall SignExitResponse

namespace GuardianCall

/-- The client's code. -/
def send (link : Link) (app : App) {α : Type} : GuardianCall α → Client α
  | attestFreshEthKey blockNumber address chainId =>
      GuardianClient.attestFreshEthKey link app blockNumber address chainId
  | validateCustody request =>
      GuardianClient.validateCustody link app request
  | signExit request => GuardianClient.signExit link app request

/-- The document of a call is within the limit on bodies. -/
def Fits {α : Type} : GuardianCall α → Prop
  | attestFreshEthKey blockNumber address chainId =>
      Http.contentLength (KeygenWithBlockhashRequest.codec.encode
        ⟨blockNumber, address, chainId⟩) ≤ BODY_LIMIT
  | validateCustody request =>
      Http.contentLength (ValidateCustodyRequest.codec.encode request) ≤
        BODY_LIMIT
  | signExit request =>
      Http.contentLength (SignExitRequest.codec.encode request) ≤ BODY_LIMIT

/-- The call of the function behind the route. -/
def direct (env : GuardianEnv) {α : Type} :
    GuardianCall α → Enclave (Except ClientError α)
  | attestFreshEthKey blockNumber address chainId =>
      answered (fun out => KeyGenResponse.fromEthKey out.2 out.1)
        (fun e => .refused
          (.format "eth_key_gen_with_blockhash_service failed: " e))
        (attestNewEthKeyWithBlockhash env.random env.agent blockNumber address
          chainId)
  | validateCustody request =>
      answered id (fun e => .refused (.display e))
        (verifyAndSignCustodyReceived env.registry request)
  | signExit request =>
      answered id (fun e => .refused (.display e))
        (signVoluntaryExitMessage request)

end GuardianCall

/-- Between a client and a guardian, a call whose document is within the limit
is the call of the function behind the route: its result comes back, its error
as the text that the handler makes of it, unless the network loses the request
or the response. -/
theorem guardian_calls_carried [KeySerde.Lossless] (http : Http.Laws)
    (link : Link) (env : GuardianEnv) {α : Type} (call : GuardianCall α)
    (hfits : call.Fits) :
    call.send link env.app = link.carry id (call.direct env) := by
  cases call with
  | attestFreshEthKey blockNumber address chainId =>
      refine (post_bind http (env.selects_keygen) (by simp [PlainSegment])
        _ hfits _).trans ?_
      exact carry_respond (HttpResponse.checked_encode _ (by simp))
        fun e => HttpResponse.checked_error _ _
  | validateCustody request =>
      refine (post_bind http env.selects_validateCustody
        (by simp [PlainSegment]) _ hfits _).trans ?_
      exact carry_respond (HttpResponse.checked_encode _ (by simp))
        fun e => HttpResponse.checked_error _ _
  | signExit request =>
      refine (post_bind http env.selects_signExit (by simp [PlainSegment])
        _ hfits _).trans ?_
      exact carry_respond (HttpResponse.checked_encode _ (by simp))
        fun e => HttpResponse.checked_error _ _

end Guardian

/-! ## Calls of a validator and of a secure signer -/

/-- What a client that looks at the status makes of a signing response. -/
def Response.checked (r : Response) : Except ClientError SignatureResponse :=
  match r.status, r.body with
  | .OK, .json response => .ok response
  | .OK, _ => .error .decode
  | _, _ => .error (.refused r.toHttp.body)

/-- What a client makes of one that does not. -/
def Response.parsed (r : Response) : Except ClientError SignatureResponse :=
  match r.body with
  | .json response => .ok response
  | _ => .error .decode

theorem Response.checked_toHttp (r : Response) :
    r.toHttp.checked SignatureResponse.codec = r.checked := by
  obtain ⟨status, body⟩ := r
  cases status with
  | OK =>
      cases body with
      | json response =>
          exact HttpResponse.checked_encode _ (by simp [StatusCode.code])
            response
      | text s => rfl
      | format s e => rfl
  | _ => exact if_neg (by simp [Response.toHttp, StatusCode.code])

theorem Response.parsed_toHttp (r : Response) :
    r.toHttp.parsed SignatureResponse.codec = r.parsed := by
  obtain ⟨status, body⟩ := r
  cases body with
  | json response => exact HttpResponse.parsed_encode _ _ response
  | text s => rfl
  | format s e => rfl

section Signer

variable [Blsttc] [Secp256k1] [KeySerde] [SerdeHex] [Hashing] [Eth2TreeHash]
  [SszSerde] [NumBigint] [Http]

/-- The calls of a validator's client that send a document. -/
inductive ValidatorCall : Type → Type
  | attestFreshBlsKey (payload : AttestFreshBlsKeyPayload) :
      ValidatorCall BlsKeygenPayload
  | signVoluntaryExitMessage (blsPkHex : Str) (epoch : Epoch)
      (validatorIndex : ValidatorIndex) (forkInfo : ForkInfo) :
      ValidatorCall SignatureResponse

/-- The calls of a secure signer's client that change or use its keys. -/
inductive SecureSignerCall : Type → Type
  | generateEthKey : SecureSignerCall KeyGenResponse
  | generateBlsKey : SecureSignerCall KeyGenResponse
  | secureSignBls (publicKeyHex : Str) (signingData : BLSSignMsg) :
      SecureSignerCall SignatureResponse

/-- A call for a signature has a key that is plain text, and a document within
the limit on bodies. -/
structure SignFits (pk : Str) (msg : BLSSignMsg) : Prop where
  plain : PlainSegment (String.ofList pk)
  length : Http.contentLength (BLSSignMsg.codec.encode msg) ≤ BODY_LIMIT

namespace ValidatorCall

def send (link : Link) (app : App) {α : Type} : ValidatorCall α → Client α
  | attestFreshBlsKey payload =>
      ValidatorClient.attestFreshBlsKey link app payload
  | signVoluntaryExitMessage pk epoch index forkInfo =>
      ValidatorClient.signVoluntaryExitMessage link app pk epoch index
        forkInfo

def direct (env : SignerEnv) {α : Type} :
    ValidatorCall α → Enclave (Except ClientError α)
  | attestFreshBlsKey payload =>
      answered id (fun _ => .refused .empty)
        (ValidatorGuardian.attestFreshBlsKey env.blsRandom env.seeds env.agent
          payload.withdrawalCredentials payload.guardianPubkeys
          payload.threshold payload.forkVersion payload.doRemoteAttestation)
  | signVoluntaryExitMessage pk epoch index forkInfo => do
      let response ← signValidatorMessage (strip0xPrefix pk)
        env.genesisForkVersion
        (.VOLUNTARY_EXIT ⟨forkInfo, none, ⟨epoch, index⟩⟩)
      return response.checked

def Fits {α : Type} : ValidatorCall α → Prop
  | attestFreshBlsKey payload =>
      Http.contentLength (AttestFreshBlsKeyPayload.codec.encode payload) ≤
        BODY_LIMIT
  | signVoluntaryExitMessage pk epoch index forkInfo =>
      SignFits (strip0xPrefix pk)
        (.VOLUNTARY_EXIT ⟨forkInfo, none, ⟨epoch, index⟩⟩)

end ValidatorCall

namespace SecureSignerCall

def send (link : Link) (app : App) {α : Type} : SecureSignerCall α → Client α
  | generateEthKey => SecureSignerClient.generateEthKey link app
  | generateBlsKey => SecureSignerClient.generateBlsKey link app
  | secureSignBls pk msg => SecureSignerClient.secureSignBls link app pk msg

/-- A block whose base fee or excess data gas takes fewer than four limbs is
refused before anything happens. -/
def direct (env : SignerEnv) {α : Type} :
    SecureSignerCall α → Enclave (Except ClientError α)
  | generateEthKey =>
      answered (fun out => KeyGenResponse.fromEthKey out.2 out.1)
        (fun _ => .decode) (attestNewEthKey env.ethRandom env.agent)
  | generateBlsKey =>
      answered (fun out => KeyGenResponse.fromBlsKey out.2 out.1)
        (fun _ => .decode) (attestNewBlsKey env.blsRandom env.agent)
  | secureSignBls pk msg =>
      if msg.FeesFit then do
        let response ← signValidatorMessage pk env.genesisForkVersion msg
        return response.parsed
      else return .error .decode

def Fits {α : Type} : SecureSignerCall α → Prop
  | secureSignBls pk msg => SignFits pk msg
  | _ => True

section Direct

variable {env : SignerEnv} {pk : Str} {msg : BLSSignMsg}

omit [KeySerde] [SszSerde] [NumBigint] [Http] in
theorem direct_of_feesFit (h : msg.FeesFit) :
    (secureSignBls pk msg).direct env = (do
      let response ← signValidatorMessage pk env.genesisForkVersion msg
      return response.parsed) :=
  if_pos h

omit [KeySerde] [SszSerde] [NumBigint] [Http] in
theorem direct_of_not_feesFit (h : ¬ msg.FeesFit) :
    (secureSignBls pk msg).direct env = return .error .decode :=
  if_neg h

end Direct

end SecureSignerCall

section Sign

variable {link : Link} {app : App} {env : SignerEnv} {β : Type}

omit [KeySerde] in
/-- A signing request arrives as it is, or it carries a block and is turned
away. -/
theorem sign_bind [SszSerde.Lossless] (http : Http.Laws)
    (laws : NumBigint.Laws) {pk : Str} {msg : BLSSignMsg}
    (hfits : SignFits pk msg)
    (hselects : ∀ part, app.Selects env.signRoute
      (["api", "v1", "eth2", "sign"] ++ [part]))
    (read : HttpResponse → Except ClientError β) :
    (send link app .POST ["api", "v1", "eth2", "sign", String.ofList pk]
        (some (BLSSignMsg.codec.encode msg)) >>= fun resp =>
        ExceptT.mk (.ret (read resp))) =
      link.carry id (if msg.FeesFit then do
          let response ← signValidatorMessage pk env.genesisForkVersion msg
          return read response.toHttp
        else return read ⟨422, .rejection⟩) := by
  have hplain : ∀ part ∈ ["api", "v1", "eth2", "sign"] ++ [String.ofList pk],
      PlainSegment part := by
    simp only [List.forall_mem_append, List.forall_mem_singleton]
    exact ⟨by simp [PlainSegment], hfits.plain⟩
  have hdecode : BLSSignMsg.codec.decode (BLSSignMsg.codec.encode msg) =
      if msg.FeesFit then some msg else none :=
    BLSSignMsg.ofJson_toJson laws msg
  have hexchange : send link app .POST
      ["api", "v1", "eth2", "sign", String.ofList pk]
      (some (BLSSignMsg.codec.encode msg)) = _ :=
    http.pathJson (hselects _) hplain hfits.length
  rw [hexchange, carry_ok_bind, hdecode, String.toList_ofList]
  by_cases hfit : msg.FeesFit
  · rw [if_pos hfit, if_pos hfit, Option.elim_some,
      SignerEnv.secureSignBlsHandler, carry_map, carry_map]
    rfl
  · rw [if_neg hfit, if_neg hfit, Option.elim_none]
    cases link <;> rfl

end Sign

/-- Between a client and a validator, a call with a plain key and a document
within the limit is the call of the function behind the route. -/
theorem validator_calls_carried [KeySerde.Lossless] [SszSerde.Lossless]
    (http : Http.Laws) (laws : NumBigint.Laws) (link : Link) (env : SignerEnv)
    {α : Type} (call : ValidatorCall α) (hfits : call.Fits) :
    call.send link env.validatorApp = link.carry id (call.direct env) := by
  cases call with
  | attestFreshBlsKey payload =>
      refine (post_bind http env.selects_keygen (by simp [PlainSegment])
        _ hfits _).trans ?_
      exact carry_respond (HttpResponse.checked_encode _ (by simp))
        fun e => HttpResponse.checked_error _ _
  | signVoluntaryExitMessage pk epoch index forkInfo =>
      have hfit : (BLSSignMsg.VOLUNTARY_EXIT
          ⟨forkInfo, none, ⟨epoch, index⟩⟩).FeesFit := by
        simp [BLSSignMsg.FeesFit, BLSSignMsg.beaconBlock?]
      refine (sign_bind http laws hfits env.validatorApp_selects_sign
        _).trans ?_
      rw [if_pos hfit]
      simp only [Response.checked_toHttp]
      rfl

/-- Between a client and a secure signer, a call with a plain key and a
document within the limit is the call of the function behind the route, except
that a block is refused when its base fee or its excess data gas takes fewer
than four limbs; no error but a loss is told from another. -/
theorem secure_signer_calls_carried [KeySerde.Lossless] [SszSerde.Lossless]
    (http : Http.Laws) (laws : NumBigint.Laws) (link : Link) (env : SignerEnv)
    {α : Type} (call : SecureSignerCall α) (hfits : call.Fits) :
    call.send link env.secureSignerApp = link.carry id (call.direct env) := by
  cases call with
  | generateEthKey =>
      refine (send_bind http env.selects_ethKeygen (by simp [PlainSegment])
        _).trans ?_
      exact carry_respond (HttpResponse.parsed_encode _ _) fun e => rfl
  | generateBlsKey =>
      refine (send_bind http env.selects_blsKeygen (by simp [PlainSegment])
        _).trans ?_
      exact carry_respond (HttpResponse.parsed_encode _ _) fun e => rfl
  | secureSignBls pk msg =>
      refine (sign_bind http laws hfits env.secureSignerApp_selects_sign
        _).trans ?_
      simp only [Response.parsed_toHttp]
      rfl

end Signer

section SampleCalls

open Exponent PlainHttp Schoolbook TransparentSerde

scoped instance keySerdeLossless : KeySerde.Lossless :=
  keySerde_lossless uncompressedParses

def sampleGuardianEnv : GuardianEnv where
  random := guardianKey 1
  agent := ⟨true, fun _ => none⟩
  registry := noRegistry
  listEthKeysHandler := healthHandler

def sampleSignerEnv : SignerEnv where
  blsRandom := line 3 5
  ethRandom := guardianKey 1
  seeds _ := ()
  agent := ⟨true, fun _ => none⟩
  listEthKeysHandler := healthHandler
  listBlsKeysHandler := healthHandler
  listBlsKeysForVcHandler := healthHandler
  genesisForkVersion := GENESIS_FORK_VERSION

/-- A custody request with a payload for one guardian. -/
def sampleCustodyCall : GuardianCall ValidateCustodyResponse :=
  .validateCustody
    (custodyRequest (payloadFor (line 3 5) [guardianKey 1]) (guardianKey 1))

theorem fits_sampleCustodyCall : sampleCustodyCall.Fits := by
  change Http.contentLength (ValidateCustodyRequest.codec.encode _) ≤ _
  decide +kernel

theorem guardian_calls_carried_sampleCustodyCall :
    sampleCustodyCall.send .delivers sampleGuardianEnv.app =
      Link.delivers.carry id (sampleCustodyCall.direct sampleGuardianEnv) :=
  guardian_calls_carried PlainHttp.laws .delivers sampleGuardianEnv
    sampleCustodyCall fits_sampleCustodyCall

/-- A voluntary exit signed by the key that a validator has generated. -/
def sampleExitCall : ValidatorCall SignatureResponse :=
  .signVoluntaryExitMessage (keyName 3) 0 7 genesisForkInfo

theorem fits_sampleExitCall : sampleExitCall.Fits := by
  constructor
  · rw [keyName, strip0xPrefix_encode]
    exact plainSegment_encode (List.cons_ne_nil _ _)
  · decide +kernel

theorem validator_calls_carried_sampleExitCall :
    sampleExitCall.send .delivers sampleSignerEnv.validatorApp =
      Link.delivers.carry id (sampleExitCall.direct sampleSignerEnv) :=
  validator_calls_carried PlainHttp.laws Schoolbook.laws .delivers
    sampleSignerEnv sampleExitCall fits_sampleExitCall

def emptyPayload (fee : U256) : ExecutionPayload where
  parentHash := List.Vector.replicate 32 0
  feeRecipient := List.Vector.replicate 20 0
  stateRoot := List.Vector.replicate 32 0
  receiptsRoot := List.Vector.replicate 32 0
  logsBloom := List.Vector.replicate 256 0
  prevRandao := List.Vector.replicate 32 0
  blockNumber := 0
  gasLimit := 0
  gasUsed := 0
  timestamp := 0
  extraData := ⟨[], by simp⟩
  baseFeePerGas := fee
  blockHash := List.Vector.replicate 32 0
  transactions := ⟨[], by simp⟩
  withdrawals := ⟨[], by simp⟩
  excessDataGas := fee

def emptyBody (fee : U256) : BeaconBlockBody where
  randaoReveal := List.Vector.replicate 96 0
  eth1Data := {
    depositRoot := List.Vector.replicate 32 0
    depositCount := 0
    blockHash := List.Vector.replicate 32 0 }
  graffiti := List.Vector.replicate 32 0
  proposerSlashings := ⟨[], by simp⟩
  attesterSlashings := ⟨[], by simp⟩
  attestations := ⟨[], by simp⟩
  deposits := ⟨[], by simp⟩
  voluntaryExits := ⟨[], by simp⟩
  syncAggregate := {
    syncCommitteeBits := List.Vector.replicate 512 false
    syncCommitteeSignature := List.Vector.replicate 96 0 }
  executionPayload := emptyPayload fee
  blsToExecutionChanges := ⟨[], by simp⟩
  blobKzgCommitments := ⟨[], by simp⟩

/-- A block with both fees of `limbs`. -/
def sampleBlock (limbs : U256) : BLSSignMsg :=
  .BLOCK {
    forkInfo := genesisForkInfo
    signingRoot := none
    block := {
      slot := 8
      proposerIndex := 0
      parentRoot := List.Vector.replicate 32 0
      stateRoot := List.Vector.replicate 32 0
      body := emptyBody limbs } }

/-- A block signed by the same key. -/
def sampleBlockCall (limbs : U256) : SecureSignerCall SignatureResponse :=
  .secureSignBls (keyName 3) (sampleBlock limbs)

theorem fits_largeFees :
    (sampleBlockCall ⟨[0, 0, 0, 1], rfl⟩).Fits := by
  constructor
  · exact plainSegment_encode (List.cons_ne_nil _ _)
  · decide +kernel

theorem fits_noFees : (sampleBlockCall ⟨[0, 0, 0, 0], rfl⟩).Fits := by
  constructor
  · exact plainSegment_encode (List.cons_ne_nil _ _)
  · decide +kernel

/-- A block with large fees reaches the endpoint, and one without fees is
refused. -/
theorem secure_signer_calls_carried_sampleBlockCall :
    (sampleBlockCall ⟨[0, 0, 0, 1], rfl⟩).send .delivers
        sampleSignerEnv.secureSignerApp =
      Link.delivers.carry id (do
        let response ← signValidatorMessage (keyName 3) GENESIS_FORK_VERSION
          (sampleBlock ⟨[0, 0, 0, 1], rfl⟩)
        return response.parsed) ∧
    (sampleBlockCall ⟨[0, 0, 0, 0], rfl⟩).send .delivers
        sampleSignerEnv.secureSignerApp =
      Link.delivers.carry id (return .error .decode) := by
  have hlarge : (sampleBlock ⟨[0, 0, 0, 1], rfl⟩).FeesFit := by
    decide +kernel
  have hnone : ¬ (sampleBlock ⟨[0, 0, 0, 0], rfl⟩).FeesFit := by
    decide +kernel
  constructor
  · refine (secure_signer_calls_carried PlainHttp.laws Schoolbook.laws
      .delivers sampleSignerEnv _ fits_largeFees).trans ?_
    exact congrArg _ (SecureSignerCall.direct_of_feesFit hlarge)
  · refine (secure_signer_calls_carried PlainHttp.laws Schoolbook.laws
      .delivers sampleSignerEnv _ fits_noFees).trans ?_
    exact congrArg _ (SecureSignerCall.direct_of_not_feesFit hnone)

end SampleCalls

end ValidatorGuardian
