import ValidatorGuardian.Crates.Ethereum
import ValidatorGuardian.Io.Files

/-!
# Key files

A secret key is kept as hex text in a file named by the hex of its public key.
Every function strips a leading `0x` from the name it is given, and writers
strip one from the key as well.
-/

namespace ValidatorGuardian

def writeKey (dir : Dir) (fname skHex : Str) : Enclave Unit :=
  writeFileIn "Failed to create keys dir" "failed to write sk" dir fname
    (.text skHex)

/-- The error of a write of a key file that fails. -/
def keyWriteError : Error := .context "failed to write sk" .io

def writeEthKey (pkHex skHex : Str) : Enclave Unit :=
  let pkHex := strip0xPrefix pkHex
  let skHex := strip0xPrefix skHex
  writeKey .ethKeys pkHex skHex

def writeBlsKey (pkHex skHex : Str) : Enclave Unit :=
  let pkHex := strip0xPrefix pkHex
  let skHex := strip0xPrefix skHex
  writeKey .blsKeys pkHex skHex

/-- Writes the BLS secret key to a keystore file; the errors of the library are
not told apart. -/
def writeBlsKeystore [EthKeystore] (rng : EthKeystore.Rng) (pkHex : Str)
    (sk : List UInt8) (password : Str) : Enclave Str := do
  withContext "Failed to create keys dir" (createDirAll .blsKeys)
  let pkHex := strip0xPrefix pkHex
  let (keystore, uuid) ← liftM
    (Outcome.okOr .ethKeystore (EthKeystore.encryptKey rng sk password))
  match ← attempt (writeFile .blsKeys pkHex (.json keystore)) with
  | .ok () => return uuid
  | .error _ => liftM (Outcome.okOr .ethKeystore none : Outcome Str)

/-- `hex::decode` of the contents of a file. -/
def hexDecodeContents : Contents → Outcome (List UInt8)
  | .text s => hexDecode s
  | _ => .error (.err .hex)

def readKey (dir : Dir) (fname : Str) : Enclave (List UInt8) := do
  let skRecBytes ← withContext "Unable to read secret key"
    (readFile dir fname)
  liftM (Outcome.withContext "Unable to hex-decode secret key"
    (hexDecodeContents skRecBytes))

def readEthKey (pkHex : Str) : Enclave (List UInt8) :=
  let pkHex := strip0xPrefix pkHex
  readKey .ethKeys pkHex

def readBlsKey (pkHex : Str) : Enclave (List UInt8) :=
  let pkHex := strip0xPrefix pkHex
  readKey .blsKeys pkHex

/-- A file that cannot be looked up does not exist. -/
def keyExists (dir : Dir) (fname : Str) : Enclave Bool := do
  match ← attempt (readFile dir fname) with
  | .ok _ => return true
  | .error _ => return false

def blsKeyExists (pkHex : Str) : Enclave Bool :=
  let pkHex := strip0xPrefix pkHex
  keyExists .blsKeys pkHex

/-- `list_fnames` of a directory that exists: the names of its files, in the
order that the file system chooses. -/
structure ListFnames (D : Disk) (dir : Dir) (names : List Str) : Prop where
  nodup : names.Nodup
  mem_iff : ∀ name, name ∈ names ↔ (D dir name).isSome

def ListBlsKeys (D : Disk) : List Str → Prop := ListFnames D .blsKeys

def ListEthKeys (D : Disk) : List Str → Prop := ListFnames D .ethKeys

theorem exec_keyExists_nil {dir : Dir} {fname : Str} {D : Disk} {c : Contents}
    (h : D dir fname = some c) :
    exec (keyExists dir fname) ([], D) = (.ok true, ([], D)) :=
  exec_bind_of_ok ((Query.readFile dir fname).attempt_returns
    (Outcome.okOr_eq_ok.mpr h))

/-- Looking for a file neither fails nor changes one. -/
theorem triple_keyExists {Ok : Fault → Prop} {P : Disk → Prop} (dir : Dir)
    (fname : Str) :
    Triple Ok P (keyExists dir fname) fun r D => P D ∧ ∃ b, r = .ok b := by
  refine (Query.readFile dir fname).attemptBind ?_ ?_ ?_
  · exact fun _ => Triple.pure fun D hD => ⟨hD.1, true, rfl⟩
  · exact fun _ => Triple.pure fun D hD => ⟨hD, false, rfl⟩
  · exact fun D _ hpanic => absurd hpanic Outcome.okOr_ne_panic

theorem exec_writeBlsKeystore_nil [EthKeystore] {rng : EthKeystore.Rng}
    {pkHex password : Str} {sk : List UInt8} {out : Json.Value × Str}
    (hout : EthKeystore.encryptKey rng sk password = some out) (D : Disk) :
    exec (writeBlsKeystore rng pkHex sk password) ([], D) =
      (.ok out.2, ([], D.set .blsKeys (strip0xPrefix pkHex)
        (.json out.1))) := by
  have hdir : exec (withContext "Failed to create keys dir"
      (createDirAll .blsKeys)) ([], D) = (.ok (), ([], D)) := rfl
  have hwrite : exec (attempt (writeFile .blsKeys (strip0xPrefix pkHex)
      (.json out.1))) ([], D) = (.ok (.ok ()), ([], D.set .blsKeys
        (strip0xPrefix pkHex) (.json out.1))) := rfl
  rw [writeBlsKeystore, exec_bind_of_ok hdir, hout]
  exact (exec_bind_of_ok (exec_liftM _ _)).trans (exec_bind_of_ok hwrite)

/-! ## The bytes that a key file holds -/

def Contents.key : Contents → Option (List UInt8)
  | .text s => Hex.decode s
  | _ => none

def Disk.key (D : Disk) (dir : Dir) (fname : Str) : Option (List UInt8) :=
  (D dir fname).bind Contents.key

/-- What is left of the hex of bytes is at most the hex of fewer. -/
theorem length_lt_of_key_tornAt {bytes bs : List UInt8} {n : ℕ}
    (hpos : 0 < bytes.length)
    (h : ((Contents.text (Hex.encode bytes)).tornAt n).key = some bs) :
    bs.length < bytes.length := by
  have hlength := Hex.length_of_decode h
  rw [List.length_take, List.length_dropLast, Hex.encode_length] at hlength
  omega

/-- What the reader of a key file finds. -/
def lookupKey (D : Disk) (dir : Dir) (fname : Str) : Outcome (List UInt8) := do
  let skRecBytes ← Outcome.withContext "Unable to read secret key"
    (Outcome.okOr .io (D dir fname))
  Outcome.withContext "Unable to hex-decode secret key"
    (hexDecodeContents skRecBytes)

theorem query_readKey (dir : Dir) (fname : Str) :
    Query (readKey dir fname) fun D => lookupKey D dir fname :=
  ((Query.readFile dir fname).withContext _).bind fun _ => Query.lift _

theorem hexDecodeContents_eq_ok {c : Contents} {bs : List UInt8} :
    hexDecodeContents c = .ok bs ↔ c.key = some bs := by
  cases c <;> simp [hexDecodeContents, hexDecode, Contents.key]

theorem lookupKey_eq_ok {D : Disk} {dir : Dir} {fname : Str}
    {bs : List UInt8} :
    lookupKey D dir fname = .ok bs ↔ D.key dir fname = some bs := by
  simp only [lookupKey, Disk.key, Outcome.bind_eq_ok,
    Outcome.withContext_eq_ok, Outcome.okOr_eq_ok, hexDecodeContents_eq_ok,
    Option.bind_eq_some_iff]

/-- A key file that cannot be read is an error, not a panic. -/
theorem lookupKey_ne_panic (D : Disk) (dir : Dir) (fname : Str) :
    lookupKey D dir fname ≠ .error .panic := by
  refine Outcome.bind_ne_panic
    (Outcome.withContext_ne_panic Outcome.okOr_ne_panic) fun c _ =>
    Outcome.withContext_ne_panic ?_
  cases c with
  | text s => exact Outcome.okOr_ne_panic
  | json doc => simp [hexDecodeContents]
  | malformed doc => simp [hexDecodeContents]
  | garbage => simp [hexDecodeContents]

end ValidatorGuardian
