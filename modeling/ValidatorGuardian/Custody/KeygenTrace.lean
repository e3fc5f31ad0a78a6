import ValidatorGuardian.Custody.KeyStore
import ValidatorGuardian.Custody.Keygen
import ValidatorGuardian.Enclave.SecureSigner
import ValidatorGuardian.Io.Leftovers

/-!
# The trace of a key generation

A key generation saves the key that it has drawn and asks the agent to attest
to it afterwards.  When the agent refuses, or when an address is found to be
malformed, the key stays where it is, as if the generation had succeeded.
-/

namespace ValidatorGuardian

/-! ## Leaving no trace -/

/-- There are the same files as before, so the same keys are listed. -/
structure NoTrace (D D' : Disk) : Prop where
  files : ∀ dir name, (D' dir name).isSome = (D dir name).isSome
  ethKeys : ∀ resp, listEthKeysHandler D' resp ↔ listEthKeysHandler D resp
  blsKeys : ∀ resp, listBlsKeysHandler D' resp ↔ listBlsKeysHandler D resp
  blsKeysForVc : ∀ resp,
    listBlsKeysForVcHandler D' resp ↔ listBlsKeysForVcHandler D resp

theorem noTrace_of_files {D D' : Disk}
    (h : ∀ dir name, (D' dir name).isSome = (D dir name).isSome) :
    NoTrace D D' := by
  have hlist : ∀ dir, ListFnames D' dir = ListFnames D dir := by
    intro dir
    funext names
    apply propext
    constructor
    · intro hnames
      exact ⟨hnames.nodup, fun name => by rw [hnames.mem_iff, h]⟩
    · intro hnames
      exact ⟨hnames.nodup, fun name => by rw [hnames.mem_iff, h]⟩
  refine ⟨h, fun resp => ?_, fun resp => ?_, fun resp => ?_⟩
  · rw [listEthKeysHandler, listEthKeysHandler, ListEthKeys, ListEthKeys,
      hlist]
  · rw [listBlsKeysHandler, listBlsKeysHandler, ListBlsKeys, ListBlsKeys,
      hlist]
  · rw [listBlsKeysForVcHandler, listBlsKeysForVcHandler, ListBlsKeys,
      ListBlsKeys, hlist]

/-- Stored files leave no trace exactly where there were files already. -/
theorem noTrace_store_iff (D : Disk) (files : List NamedFile) :
    NoTrace D (D.store files) ↔ ∀ f ∈ files, (D f.dir f.name).isSome := by
  constructor
  · intro h f hf
    have hstored : (D.store files f.dir f.name).isSome :=
      Disk.isSome_store.mpr (.inr ⟨f, hf, rfl, rfl⟩)
    rwa [h.files] at hstored
  · intro h
    refine noTrace_of_files fun dir name => ?_
    rw [Bool.eq_iff_iff, Disk.isSome_store, or_iff_left_iff_imp]
    rintro ⟨f, hf, rfl, rfl⟩
    exact h f hf

section Operations

variable [Blsttc] [Secp256k1]

/-! ## The files of a fresh key -/

/-- The key file of an ETH key. -/
def ethKeyFile (sk : EthSecretKey) : NamedFile where
  dir := .ethKeys
  name := ethKeyName sk
  contents := .text (Hex.encode (Secp256k1.secretKeySerialize sk).toList)

/-- The name of the files of a BLS key. -/
def blsKeyName (set : Blsttc.SecretKeySet) : Str :=
  Hex.encode (pubKeyBytes (Blsttc.publicKeys set)).toList

/-- The key file of a BLS key. -/
def blsKeyFile (set : Blsttc.SecretKeySet) : NamedFile where
  dir := .blsKeys
  name := blsKeyName set
  contents := .text (Hex.encode (Blsttc.secretKeySetToBytes set))

/-- The slashing database of a BLS key that has signed nothing. -/
def freshDbFile (set : Blsttc.SecretKeySet) : NamedFile where
  dir := .slashing
  name := blsKeyName set
  contents := .json (SlashingProtectionData.new
    (pubKeyBytes (Blsttc.publicKeys set))).toJson

omit [Blsttc] in
theorem saves_ethKeyGen (random : EthSecretKey) :
    Saves (ethKeyGen random) (Secp256k1.publicKeyFromSecretKey random)
      (ethKeyFile random) := by
  have hwrite := Saves.writeFileIn "Failed to create keys dir"
    "failed to write sk" (ethKeyFile random)
  have hsave : Saves (writeEthKey
      (ethPkToHex (Secp256k1.publicKeyFromSecretKey random))
      (ethSkToHex random)) () (ethKeyFile random) := by
    rw [writeEthKey, ethPkToHex_eq, ethSkToHex_eq, strip0xPrefix_encode,
      strip0xPrefix_encode]
    exact hwrite
  exact ((hsave.withContext "eth sk failed to save").bindPure fun _ =>
    Secp256k1.publicKeyFromSecretKey random).withContext
      "Failed to save generated ETH key"

omit [Secp256k1] in
theorem saves_saveBlsKey (hhex : Blsttc.HexOfBytes)
    {set : Blsttc.SecretKeySet}
    (hkey : Blsttc.HasPublicKey (Blsttc.publicKeys set)) :
    Saves (saveBlsKey set) () (blsKeyFile set) := by
  have hwrite := Saves.writeFileIn "Failed to create keys dir"
    "failed to write sk" (blsKeyFile set)
  rw [saveBlsKey_eq hkey]
  refine Saves.withContext ?_ "aggregate bls sk failed to save"
  rw [writeBlsKey, hhex, strip0xPrefix_encode, strip0xPrefix_encode]
  exact hwrite

omit [Secp256k1] in
theorem saves_freshDb (set : Blsttc.SecretKeySet) :
    Saves (SlashingProtectionData.new
      (pubKeyBytes (Blsttc.publicKeys set))).write () (freshDbFile set) :=
  Saves.writeFileIn _ _ (freshDbFile set)

/-! ## The operations -/

section Eth

omit [Blsttc]

theorem leaves_attestNewEthKey (random : EthSecretKey) (agent : CvmAgent) :
    Leaves (attestNewEthKey random agent) True [ethKeyFile random] := by
  refine Leaves.bindSaves (saves_ethKeyGen random) fun pk => ?_
  exact Leaves.bindLift (fun proof _ => Leaves.pure (proof, pk))
    (fun _ _ => .inr rfl)

theorem leaves_attestNewEthKeyWithBlockhash [Ethers] (random : EthSecretKey)
    (agent : CvmAgent) (blockNumber : UInt64) (address : Str)
    (chainId : UInt64) :
    Leaves (attestNewEthKeyWithBlockhash random agent blockNumber address
      chainId) True [ethKeyFile random] := by
  refine Leaves.bindSaves (saves_ethKeyGen random) fun pk => ?_
  refine Leaves.bindLift (fun _ _ => ?_) (fun _ _ => .inr rfl)
  exact Leaves.bindLift (fun proof _ => Leaves.pure (proof, pk))
    (fun _ _ => .inr rfl)

end Eth

/-- The files of a fresh BLS key. -/
def blsKeyFiles (set : Blsttc.SecretKeySet) : List NamedFile :=
  [blsKeyFile set, freshDbFile set]

omit [Secp256k1] in
theorem leaves_attestNewBlsKey (hhex : Blsttc.HexOfBytes)
    (random : Blsttc.SecretKeySet) (agent : CvmAgent) :
    Leaves (attestNewBlsKey random agent) (DrawnAt random 0)
      (blsKeyFiles random) := by
  refine Leaves.bindLift ?_ ?_
  · intro sk hsk
    obtain ⟨rfl, hdrawn⟩ := newBlsKey_eq_ok.mp hsk
    refine Leaves.of_prepared ?_ hdrawn
    refine Leaves.bindOk hdrawn.2.publicKeyOf_eq ?_
    refine Leaves.bindSaves
      ((saves_saveBlsKey hhex hdrawn.2).withContext _) fun _ => ?_
    refine Leaves.bindOk
      (SlashingProtectionData.fromPkHex_publicKeyToHex hhex _) ?_
    refine Leaves.bindSaves (saves_freshDb sk) fun _ => ?_
    exact Leaves.bindLift (fun _ _ => Leaves.pure _) (fun _ _ => .inr rfl)
  · intro e he
    refine .inl fun hdrawn => ?_
    rw [newBlsKey, if_pos hdrawn] at he
    cases he

variable [Hashing] [Eth2TreeHash]

/-- The key is saved once the shares have been encrypted. -/
theorem leaves_attestFreshBlsKey (hhex : Blsttc.HexOfBytes)
    (random : Blsttc.SecretKeySet) (seeds : ℕ → Secp256k1.Seed)
    (agent : CvmAgent) (wc : Bytes 32) (guardianPks : List EthPublicKey)
    (threshold : UInt64) (forkVersion : Version) (attest : Bool) :
    Leaves (attestFreshBlsKey random seeds agent wc guardianPks threshold
        forkVersion attest)
      (Drawn random threshold ∧ ∃ keys, Encrypted random seeds guardianPks keys)
      (blsKeyFiles random) := by
  rw [attestFreshBlsKey_eq]
  refine Leaves.bindLift ?_ ?_
  · intro keys hfresh
    obtain ⟨hdrawn, hkeys⟩ := freshKeys_eq_ok.mp hfresh
    refine Leaves.of_prepared ?_ ⟨hdrawn, keys, hkeys⟩
    refine Leaves.bindSaves
      (saves_saveBlsKey hhex hdrawn.hasPublicKey) fun _ => ?_
    refine Leaves.bindOk
      (SlashingProtectionData.fromPkHex_publicKeyToHex hhex _) ?_
    refine Leaves.bindSaves (saves_freshDb random) fun _ => ?_
    exact Leaves.nil fun _ => rfl
  · intro e he
    refine .inl ?_
    rintro ⟨hdrawn, keys, hkeys⟩
    rw [freshKeys_eq_ok.mpr ⟨hdrawn, hkeys⟩] at he
    cases he

/-- A key generation, with what it draws and the agent that it asks. -/
inductive KeygenOp where
  | attestNewEthKeyWithBlockhash (random : EthSecretKey) (agent : CvmAgent)
      (blockNumber : UInt64) (guardianModuleAddress : Str) (chainId : UInt64)
  | attestNewEthKey (random : EthSecretKey) (agent : CvmAgent)
  | attestNewBlsKey (random : Blsttc.SecretKeySet) (agent : CvmAgent)
  | attestFreshBlsKey (random : Blsttc.SecretKeySet)
      (seeds : ℕ → Secp256k1.Seed) (agent : CvmAgent) (wc : Bytes 32)
      (guardianPks : List EthPublicKey) (threshold : UInt64)
      (forkVersion : Version) (attest : Bool)

namespace KeygenOp

variable [Ethers]

/-- Run the operation for its effects. -/
def program : KeygenOp → Enclave Unit
  | attestNewEthKeyWithBlockhash random agent block address chain => do
      let _ ← ValidatorGuardian.attestNewEthKeyWithBlockhash random agent block
        address chain
      return ()
  | attestNewEthKey random agent => do
      let _ ← ValidatorGuardian.attestNewEthKey random agent
      return ()
  | attestNewBlsKey random agent => do
      let _ ← ValidatorGuardian.attestNewBlsKey random agent
      return ()
  | attestFreshBlsKey random seeds agent wc guardianPks threshold forkVersion
      attest => do
      let _ ← ValidatorGuardian.attestFreshBlsKey random seeds agent wc
        guardianPks threshold forkVersion attest
      return ()

omit [Hashing] [Eth2TreeHash] [Ethers] in
/-- What comes before the key is saved succeeds: a key set of the right
threshold that has a public key is drawn, and the shares are encrypted. -/
def Prepared : KeygenOp → Prop
  | attestNewEthKeyWithBlockhash .. | attestNewEthKey .. => True
  | attestNewBlsKey random _ => DrawnAt random 0
  | attestFreshBlsKey random seeds _ _ guardianPks threshold _ _ =>
      Drawn random threshold ∧ ∃ keys, Encrypted random seeds guardianPks keys

/-- The files of the key that is drawn. -/
def files : KeygenOp → List NamedFile
  | attestNewEthKeyWithBlockhash random .. => [ethKeyFile random]
  | attestNewEthKey random _ => [ethKeyFile random]
  | attestNewBlsKey random _ => blsKeyFiles random
  | attestFreshBlsKey random .. => blsKeyFiles random

theorem leaves (hhex : Blsttc.HexOfBytes) (op : KeygenOp) :
    Leaves op.program op.Prepared op.files := by
  cases op with
  | attestNewEthKeyWithBlockhash random agent block address chain =>
      exact (leaves_attestNewEthKeyWithBlockhash random agent block address
        chain).bindPure fun _ => ()
  | attestNewEthKey random agent =>
      exact (leaves_attestNewEthKey random agent).bindPure fun _ => ()
  | attestNewBlsKey random agent =>
      exact (leaves_attestNewBlsKey hhex random agent).bindPure fun _ => ()
  | attestFreshBlsKey random seeds agent wc guardianPks threshold forkVersion
      attest =>
      exact (leaves_attestFreshBlsKey hhex random seeds agent wc guardianPks
        threshold forkVersion attest).bindPure fun _ => ()

end KeygenOp

/-- What a key generation that fails leaves behind: nothing if its shares could
not be encrypted, else the files that a success leaves, and whatever the file
system does, nothing else. -/
structure LeavesOnlyKey [Ethers] (op : KeygenOp) (D : Disk) : Prop where
  others : ∀ faults dir name, (∀ f ∈ op.files, ¬ f.IsAt dir name) →
    (exec op.program (faults, D)).2.2 dir name = D dir name
  unprepared : ¬ op.Prepared →
    ∀ faults, (exec op.program (faults, D)).2.2 = D
  stored : op.Prepared → (exec op.program ([], D)).2.2 = D.store op.files
  noTrace_iff : NoTrace D (exec op.program ([], D)).2.2 ↔
    ¬ op.Prepared ∨ ∀ f ∈ op.files, (D f.dir f.name).isSome

theorem leavesOnlyKey [Ethers] (hhex : Blsttc.HexOfBytes) (op : KeygenOp)
    (D : Disk) : LeavesOnlyKey op D := by
  have hleaves := op.leaves hhex
  refine ⟨fun faults => hleaves.frame (faults, D),
    fun hprepared faults => hleaves.unprepared hprepared (faults, D),
    fun hprepared => hleaves.stored hprepared D, ?_⟩
  by_cases hprepared : op.Prepared
  · rw [hleaves.stored hprepared D, noTrace_store_iff]
    exact ⟨.inr, fun h => h.resolve_left (not_not.mpr hprepared)⟩
  · rw [hleaves.unprepared hprepared]
    exact iff_of_true (noTrace_of_files fun _ _ => rfl) (.inl hprepared)

end Operations

section SampleTrace

open Exponent

/-- A rotation of the guardian's key with a text that is no address. -/
def badAddressOp : KeygenOp :=
  .attestNewEthKeyWithBlockhash (guardianKey 1) ⟨true, fun _ => none⟩ 0
    "not_an_address".toList 1

theorem leavesOnlyKey_badAddress : LeavesOnlyKey badAddressOp Disk.empty :=
  leavesOnlyKey hexOfBytes badAddressOp Disk.empty

/-- The rotation fails and its key is there. -/
theorem not_noTrace_badAddress :
    ∃ e, (exec badAddressOp.program ([], Disk.empty)).1 = .error (.err e) ∧
      ¬ NoTrace Disk.empty (exec badAddressOp.program ([], Disk.empty)).2.2 := by
  refine ⟨.format "Invalid guardian_module_address: " .ethers, rfl, ?_⟩
  intro h
  have hstored : (exec badAddressOp.program ([], Disk.empty)).2.2 =
      Disk.empty.store [ethKeyFile (guardianKey 1)] :=
    (badAddressOp.leaves hexOfBytes).stored trivial Disk.empty
  rw [hstored, noTrace_store_iff] at h
  have hexists := h _ (List.mem_cons_self ..)
  cases hexists

end SampleTrace

end ValidatorGuardian
