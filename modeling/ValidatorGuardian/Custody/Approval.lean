import ValidatorGuardian.Custody.KeyStore
import ValidatorGuardian.Custody.Payload

/-!
# What an approval of custody means

A guardian that accepts a request has checked the deposit, found its share and
stored it, and signed for exactly the values that it checked, with the key that
the request names.
-/

namespace ValidatorGuardian

/-- Hex text has no prefix to strip. -/
theorem strip0xPrefix_of_decode {s : Str} {bs : List UInt8}
    (h : Hex.decode s = some bs) : strip0xPrefix s = s := by
  unfold strip0xPrefix
  split
  · next rest => simp [Hex.decode, Hex.digitVal] at h
  · rfl

theorem parseB256_eq_ok {name : String} {field : Str} {b : Bytes 32} :
    parseB256 name field = .ok b ↔
      Hex.decode (strip0xPrefix field) = some b.toList := by
  simp only [parseB256, Outcome.bind_eq_ok, hexDecode, Outcome.okOr_eq_ok,
    copyFromSlice_eq_ok, toArray?_eq_some]
  constructor
  · rintro ⟨bytes, hbytes, -, -, rfl⟩
    exact hbytes
  · intro h
    exact ⟨b.toList, h, (),
      Outcome.bailIf_eq_ok.mpr (not_not.mpr b.toList_length), rfl⟩

/-! ## The statement -/

section Approval

variable [Blsttc] [Secp256k1] [Ethers] [CvmAgentTypes] [Hashing]
  [Eth2TreeHash]

/-- The response carries an Ethereum signature over the digest of these values
that recovers to the address of the guardian's key. -/
def SignedByGuardian (request : ValidateCustodyRequest)
    (response : ValidateCustodyResponse) (pkSet : Blsttc.PublicKeySet)
    (wc : Bytes 32) (sig : Blsttc.Signature) : Prop :=
  let digest := custodyDigest request.validatorIndex (pubKeyBytes pkSet) wc
    (Blsttc.signatureToBytes sig) (fullDepositDataRoot pkSet wc sig)
  ∃ (wallet : Ethers.LocalWallet) (ethSig : Ethers.Signature),
    response.enclaveSignature = Ethers.signatureToString ethSig ∧
      Ethers.signMessage wallet digest.toList = some ethSig ∧
      Ethers.recover ethSig digest.toList =
        some (Ethers.publicKeyToAddress
          (Secp256k1.publicKeySerialize request.guardianEnclavePublicKey))

/-- The registry confirms a session signature over the attestation payload of
these values, and the session has the expected workload. -/
def ConfirmedByRegistry (registry : SessionRegistry)
    (request : ValidateCustodyRequest) (pkSet : Blsttc.PublicKeySet)
    (sigBytes : Bytes 96) (ddRoot : Root) : Prop :=
  ∃ (guardianPks : List EthPublicKey) (attested : List UInt8)
    (sessionId : Bytes 32) (sessionKey : PublicIdentity)
    (signature : List UInt8) (rpcUrl addressStr : Str) (address : Bytes 20),
    request.keygenPayload.guardianEthPubKeys.mapM ethPkFromHexUncompressed =
        .ok guardianPks ∧
      buildValidatorRemoteAttestationPayload pkSet sigBytes ddRoot
        request.keygenPayload.blsEncPrivKeyShares guardianPks =
          .ok attested ∧
      Hex.decode (strip0xPrefix request.keygenPayload.sessionId) =
        some sessionId.toList ∧
      parseSessionPublicKey request.keygenPayload.sessionPublicKey =
        .ok sessionKey ∧
      Hex.decode (strip0xPrefix request.keygenPayload.attestationSignature) =
        some signature ∧
      registry.rpcUrl = some rpcUrl ∧
      registry.registryAddress = some addressStr ∧
      CvmAgentTypes.parseRegistryAddress addressStr = some address ∧
      registry.verifySessionSignature rpcUrl address sessionId sessionKey
        (Hashing.keccak256 attested) signature = some true ∧
      (request.workloadId ≠ [] → ∃ workload : Bytes 32,
        Hex.decode (strip0xPrefix request.workloadId) =
            some workload.toList ∧
          registry.getSessionWorkloadId rpcUrl address sessionId =
            some workload)

/-- What holds of the values in an accepted request, when `D'` are the files
after it. -/
structure ApprovalSound (registry : SessionRegistry)
    (request : ValidateCustodyRequest) (response : ValidateCustodyResponse)
    (D' : Disk) (pkSet : Blsttc.PublicKeySet) (wc : Bytes 32)
    (sigBytes : Bytes 96) (sig : Blsttc.Signature) : Prop where
  decodes : Decodes request.keygenPayload pkSet wc sigBytes sig
  blsPubKey : strip0xPrefix request.keygenPayload.blsPubKey =
    Hex.encode (pubKeyBytes pkSet).toList
  depositSignature : Blsttc.verify (Blsttc.publicKey pkSet) sig
    (depositRoot (fullDeposit (pubKeyBytes pkSet) wc)
      request.keygenPayload.forkVersion).toList = true
  depositDataRoot : strip0xPrefix request.keygenPayload.depositDataRoot =
    Hex.encode (fullDepositDataRoot pkSet wc sig).toList
  custody : ∃ sk share,
    ∃ i < request.keygenPayload.blsEncPrivKeyShares.length,
      Secp256k1.publicKeyFromSecretKey sk =
          request.guardianEnclavePublicKey ∧
        OpensTo request.keygenPayload sk i share ∧
        Blsttc.derivePublicKey share = Blsttc.publicKeyShare pkSet i ∧
        D' .blsKeys (shareName share) =
          some (.text (Hex.encode (Blsttc.secretKeyToBytes share).toList))
  enclaveSignature : SignedByGuardian request response pkSet wc sig
  session : request.verifySession = true →
    ConfirmedByRegistry registry request pkSet sigBytes
      (fullDepositDataRoot pkSet wc sig)
  response : response.blsPubKey = request.keygenPayload.blsPubKey ∧
    response.withdrawalCredentials =
      request.keygenPayload.withdrawalCredentials ∧
    response.depositSignature = request.keygenPayload.signature ∧
    response.depositDataRoot = request.keygenPayload.depositDataRoot

/-! ## The parts of an approval -/

section Parts

variable {registry : SessionRegistry} {request : ValidateCustodyRequest}
  {response : ValidateCustodyResponse} {pkSet : Blsttc.PublicKeySet}
  {wc : Bytes 32} {sigBytes : Bytes 96} {sig : Blsttc.Signature}

omit [CvmAgentTypes] [Hashing] [Eth2TreeHash] [Ethers] in
/-- The key that a guardian fetches belongs to the public key it fetches it
for. -/
theorem publicKey_of_savedEthKey {torn : Prop} {D : Disk}
    (hstore : KeyStore torn D) (hlaw : Secp256k1.Encodings)
    {pk : EthPublicKey} {sk : EthSecretKey}
    (hsk : savedEthKey D (ethPkToHex pk) = some sk) :
    Secp256k1.publicKeyFromSecretKey sk = pk := by
  have hname := hstore.name_of_savedEthKey hlaw hsk
  rw [ethPkToHex_eq] at hname
  exact (hlaw.compressed_injective
    (List.Vector.toList_injective (Hex.encode_injective hname))).symm

omit [CvmAgentTypes] in
/-- An approval is signed for the decoded values. -/
theorem signedByGuardian_of_approveCustody (hwallet : Ethers.WalletAddress)
    (h : Decodes request.keygenPayload pkSet wc sigBytes sig)
    {sk : EthSecretKey} (hpk : Secp256k1.publicKeyFromSecretKey sk =
      request.guardianEnclavePublicKey)
    (happrove : approveCustody request.keygenPayload sk
      request.validatorIndex = .ok response.enclaveSignature) :
    SignedByGuardian request response pkSet wc sig := by
  unfold approveCustody at happrove
  rw [h.publicKeySet_eq, h.withdrawalCredentials_eq, h.parsedSignature_eq,
    h.computedDepositDataRoot_eq] at happrove
  simp only [Outcome.ok_bind, h.hasPublicKey.publicKeyOf_eq] at happrove
  obtain ⟨wallet, hparse, happrove⟩ := Outcome.bind_eq_ok.mp happrove
  obtain ⟨ethSig, hsign, happrove⟩ := Outcome.bind_eq_ok.mp happrove
  obtain ⟨recovered, hrecover, happrove⟩ := Outcome.bind_eq_ok.mp happrove
  obtain ⟨_, hsame, happrove⟩ := Outcome.bind_eq_ok.mp happrove
  rw [Outcome.okOr_eq_ok] at hparse hsign hrecover
  have haddress : recovered = Ethers.publicKeyToAddress
      (Secp256k1.publicKeySerialize request.guardianEnclavePublicKey) := by
    rw [← hpk, ← hwallet sk wallet hparse]
    exact not_not.mp (Outcome.bailIf_eq_ok.mp hsame)
  refine ⟨wallet, ethSig, (Except.ok.inj happrove).symm, hsign, ?_⟩
  rw [← haddress]
  exact hrecover

omit [Secp256k1] [Ethers] [CvmAgentTypes] [Hashing] [Eth2TreeHash] in
/-- A field that decodes as it stands decodes to the same bytes after a prefix
is stripped. -/
theorem Decodes.eq_of_unstripped {p : BlsKeygenPayload}
    (h : Decodes p pkSet wc sigBytes sig) {keySetBytes signature : List UInt8}
    {pkSet' : Blsttc.PublicKeySet}
    (hset : Hex.decode p.blsPubKeySet = some keySetBytes)
    (hpkSet : Blsttc.publicKeySetFromBytes keySetBytes = some pkSet')
    (hsig : Hex.decode p.signature = some signature) :
    pkSet' = pkSet ∧ fixedVectorFrom 96 signature = sigBytes := by
  obtain ⟨bytes, hbytes, hparse⟩ := h.publicKeySet
  rw [strip0xPrefix_of_decode hset, hset] at hbytes
  obtain rfl := Option.some.inj hbytes
  rw [hpkSet] at hparse
  have hsigBytes := h.signatureBytes
  rw [strip0xPrefix_of_decode hsig, hsig] at hsigBytes
  obtain rfl := Option.some.inj hsigBytes
  exact ⟨Option.some.inj hparse, fixedVectorFrom_bytes sigBytes⟩

omit [Ethers] [Eth2TreeHash] in
/-- Session evidence that is accepted is about the decoded values. -/
theorem confirmed_of_verifySessionEvidence {ddRoot : Root}
    (h : Decodes request.keygenPayload pkSet wc sigBytes sig)
    (hroot : strip0xPrefix request.keygenPayload.depositDataRoot =
      Hex.encode ddRoot.toList)
    (hverify : verifySessionEvidence registry request.keygenPayload
      request.workloadId = .ok ()) :
    ConfirmedByRegistry registry request pkSet sigBytes ddRoot := by
  obtain ⟨_, -, hverify⟩ := Outcome.bind_eq_ok.mp hverify
  obtain ⟨_, -, hverify⟩ := Outcome.bind_eq_ok.mp hverify
  obtain ⟨_, -, hverify⟩ := Outcome.bind_eq_ok.mp hverify
  obtain ⟨attested, hattested, hverify⟩ := Outcome.bind_eq_ok.mp hverify
  obtain ⟨sessionId, hid, hverify⟩ := Outcome.bind_eq_ok.mp hverify
  obtain ⟨sessionKey, hkey, hverify⟩ := Outcome.bind_eq_ok.mp hverify
  obtain ⟨signature, hsignature, hverify⟩ := Outcome.bind_eq_ok.mp hverify
  obtain ⟨rpcUrl, hurl, hverify⟩ := Outcome.bind_eq_ok.mp hverify
  obtain ⟨addressStr, hstr, hverify⟩ := Outcome.bind_eq_ok.mp hverify
  obtain ⟨address, haddress, hverify⟩ := Outcome.bind_eq_ok.mp hverify
  obtain ⟨valid, hvalid, hverify⟩ := Outcome.bind_eq_ok.mp hverify
  obtain ⟨_, htrue, hworkload⟩ := Outcome.bind_eq_ok.mp hverify
  rw [Outcome.okOr_eq_ok] at hurl hstr haddress hvalid
  -- the attestation payload is rebuilt from the fields as they stand
  obtain ⟨keySetBytes, hset, hattested⟩ := Outcome.bind_eq_ok.mp hattested
  obtain ⟨pkSet', hpkSet, hattested⟩ := Outcome.bind_eq_ok.mp hattested
  obtain ⟨rootBytes, hrootBytes, hattested⟩ := Outcome.bind_eq_ok.mp hattested
  obtain ⟨root, hcopy, hattested⟩ := Outcome.bind_eq_ok.mp hattested
  obtain ⟨sigRaw, hsig, hattested⟩ := Outcome.bind_eq_ok.mp hattested
  obtain ⟨guardianPks, hpks, hattested⟩ := Outcome.bind_eq_ok.mp hattested
  simp only [hexDecode, Outcome.okOr_eq_ok] at hset hpkSet hrootBytes hsig
  obtain ⟨rfl, hfixed⟩ := h.eq_of_unstripped hset hpkSet hsig
  have hdd : root = ddRoot := by
    rw [strip0xPrefix_of_decode hrootBytes] at hroot
    rw [hroot, Hex.decode_encode] at hrootBytes
    rw [← Option.some.inj hrootBytes, copyFromSlice_eq_ok,
      toArray?_bytes] at hcopy
    exact (Option.some.inj hcopy).symm
  rw [hfixed, hdd] at hattested
  have hregistry : valid = true := by
    simpa using Outcome.bailIf_eq_ok.mp htrue
  rw [hregistry] at hvalid
  refine ⟨guardianPks, attested, sessionId, sessionKey, signature, rpcUrl,
    addressStr, address, hpks, hattested, parseB256_eq_ok.mp hid, hkey,
    Outcome.okOr_eq_ok.mp hsignature, hurl, hstr, haddress, hvalid, ?_⟩
  intro hne
  rw [if_neg (by simpa using hne)] at hworkload
  obtain ⟨workload, hget, hworkload⟩ := Outcome.bind_eq_ok.mp hworkload
  obtain ⟨expected, hexpected, hsame⟩ := Outcome.bind_eq_ok.mp hworkload
  have heq : workload = expected :=
    not_not.mp (Outcome.bailIf_eq_ok.mp hsame)
  rw [Outcome.okOr_eq_ok, heq] at hget
  exact ⟨expected, parseB256_eq_ok.mp hexpected, hget⟩

/-- What an accepted request means in a well-named store. -/
theorem Accepted.sound (hbls : Blsttc.Encodings) (hhex : Blsttc.HexOfBytes)
    (heth : Secp256k1.Encodings) (hwallet : Ethers.WalletAddress)
    {torn : Prop} {D : Disk} (hstore : KeyStore torn D)
    {share : Blsttc.SecretKeyShare}
    (h : Accepted registry request D share response) :
    ∃ pkSet wc sigBytes sig, ApprovalSound registry request response
      (setShare D share) pkSet wc sigBytes sig := by
  obtain ⟨sk, hsk, hcustody, happrove⟩ := h.custody
  obtain ⟨pkSet, wc, sigBytes, sig, hdecodes⟩ :=
    exists_decodes_of_verifyDepositMessage h.deposit
  obtain ⟨hverify, hroot⟩ := hdecodes.verifyDepositMessage_eq_ok.mp h.deposit
  obtain ⟨hname, i, hi, hopens, hshare⟩ :=
    opensTo_of_verifyCustody hbls hhex hdecodes.publicKeySet_eq hcustody
  have hpk := publicKey_of_savedEthKey hstore heth hsk
  refine ⟨pkSet, wc, sigBytes, sig, ?_⟩
  exact {
    decodes := hdecodes
    blsPubKey := hname
    depositSignature := hverify
    depositDataRoot := hroot
    custody := ⟨sk, share, i, hi, hpk, hopens, hshare, Disk.set_same ..⟩
    enclaveSignature :=
      signedByGuardian_of_approveCustody hwallet hdecodes hpk happrove
    session := fun hsession =>
      confirmed_of_verifySessionEvidence hdecodes hroot (h.session hsession)
    response := ⟨h.blsPubKey, h.withdrawalCredentials, h.depositSignature,
      h.depositDataRoot⟩ }

end Parts

/-! ## Soundness -/

/-- In every store that a guardian can reach, whatever the payload, the
registry and the faults, an approval means that everything was checked about
the same values, that the share is stored, and that the guardian's own key
signed. -/
theorem custody_approval_sound (hbls : Blsttc.Encodings)
    (hhex : Blsttc.HexOfBytes) (heth : Secp256k1.Encodings)
    (hwallet : Ethers.WalletAddress) {D₀ : Disk} (hempty : NoKeys D₀)
    (ops : List GuardianOp) (faults : List Fault)
    (registry : SessionRegistry) (request : ValidateCustodyRequest)
    {response : ValidateCustodyResponse}
    (hexec : (exec (verifyAndSignCustodyReceived registry request)
      (faults, runGuardian D₀ ops)).1 = .ok response) :
    ∃ pkSet wc sigBytes sig, ApprovalSound registry request response
      (exec (verifyAndSignCustodyReceived registry request)
        (faults, runGuardian D₀ ops)).2.2 pkSet wc sigBytes sig := by
  have hstore : KeyStore True (runGuardian D₀ ops) :=
    (keyStore_of_noKeys hempty).runGuardian fun _ _ _ _ _ => trivial
  obtain ⟨share, haccepted, hD'⟩ := accepted_of_exec hexec
  rw [hD']
  exact haccepted.sound hbls hhex heth hwallet hstore

end Approval

section SampleApproval

open Exponent

/-- A request that the sample guardian accepts. -/
def sampleRequest : ValidateCustodyRequest :=
  custodyRequest (payloadFor (line 3 5) [guardianKey 2, guardianKey 1])
    (guardianKey 1)

theorem custody_approval_sound_sampleOps :
    ∃ response pkSet wc sigBytes sig, ApprovalSound noRegistry sampleRequest
      response (exec (verifyAndSignCustodyReceived noRegistry sampleRequest)
        ([], runGuardian Disk.empty sampleOps)).2.2 pkSet wc sigBytes sig := by
  have hsome : (exec (verifyAndSignCustodyReceived noRegistry sampleRequest)
      ([], runGuardian Disk.empty sampleOps)).1.toOption.isSome = true := by
    decide +kernel
  obtain ⟨response, hresponse⟩ := Option.isSome_iff_exists.mp hsome
  exact ⟨response, custody_approval_sound encodings hexOfBytes ethEncodings
    walletAddress noKeys_empty sampleOps [] noRegistry sampleRequest
    (Outcome.toOption_eq_some.mp hresponse)⟩

end SampleApproval

end ValidatorGuardian
