import ValidatorGuardian.Eth2.SlashProtection

/-!
# Slashing databases on disk

A database is written under the hex of its key, and that name, with or without
a prefix, reads the same database back.  No other name is concerned.
-/

namespace ValidatorGuardian

namespace SlashingProtectionData

variable {db : SlashingProtectionData} {D D' : Disk} {path : Str}

/-! ## Writing -/

/-- A write that succeeds sets one file. -/
theorem exec_write_of_ok {faults : List Fault}
    (h : (exec db.write (faults, D)).1 = .ok ()) :
    (exec db.write (faults, D)).2.2 =
      D.set .slashing (Hex.encode db.pubkey.toList) (.json db.toJson) := by
  have htriple : Triple (fun _ => True) (· = D) db.write fun r D' =>
      r = .ok () → D' = D.set .slashing (Hex.encode db.pubkey.toList)
        (.json db.toJson) := by
    refine Triple.writeFileIn trivial ?_ ?_ ?_
    · rintro D' rfl _
      rfl
    · intro e D' _ herror
      cases herror
    · intro _ _ e D' _ herror
      cases herror
  exact htriple.exec_spec (fun _ _ => trivial) rfl h

theorem exec_write_nil :
    exec db.write ([], D) = (.ok (), ([], D.set .slashing
      (Hex.encode db.pubkey.toList) (.json db.toJson))) :=
  exec_writeFileIn_nil

/-! ## Reading -/

variable [SerdeHex]

/-- Only the file that a path names matters to a read. -/
theorem exec_read_congr
    (h : D' .slashing (strip0xPrefix path) =
      D .slashing (strip0xPrefix path)) (faults : List Fault) :
    (exec (read path) (faults, D')).1 = (exec (read path) (faults, D)).1 := by
  have hans : (fsHandler (faults.headD default) D'
      (.read .slashing (strip0xPrefix path))).1 =
        (fsHandler (faults.headD default) D
          (.read .slashing (strip0xPrefix path))).1 := by
    cases faults.headD default with
    | none => exact h
    | fails => rfl
    | torn n => rfl
  have hread : ∀ D₀, exec (readFile .slashing (strip0xPrefix path))
      (faults, D₀) = (Outcome.okOr .io (fsHandler (faults.headD default) D₀
        (.read .slashing (strip0xPrefix path))).1, (faults.tail,
          (fsHandler (faults.headD default) D₀
            (.read .slashing (strip0xPrefix path))).2)) := fun _ => rfl
  rw [read, exec_bind, exec_bind, hread, hread, hans]
  cases Outcome.okOr .io (fsHandler (faults.headD default) D
    (.read .slashing (strip0xPrefix path))).1 with
  | error e => rfl
  | ok c => rfl

/-- What the files answer when `db` has been written over `D`. -/
structure Persisted (db : SlashingProtectionData) (D D' : Disk) :
    Prop where
  own : ∀ path, path = Hex.encode db.pubkey.toList ∨
      path = '0' :: 'x' :: Hex.encode db.pubkey.toList →
    exec (read path) ([], D') = (.ok db, ([], D'))
  others : ∀ path, strip0xPrefix path ≠ Hex.encode db.pubkey.toList →
    ∀ faults, (exec (read path) (faults, D')).1 =
      (exec (read path) (faults, D)).1

theorem persisted_set : Persisted db D
    (D.set .slashing (Hex.encode db.pubkey.toList) (.json db.toJson)) where
  own path hpath := by
    have hname : strip0xPrefix path = Hex.encode db.pubkey.toList := by
      rcases hpath with rfl | rfl
      · exact strip0xPrefix_encode _
      · exact strip0xPrefix_prefixed _
    apply (query_readDb path).returns
    rw [hname, lookupDb_eq_ok]
    exact savedDb_set_same D _ db
  others path hpath := by
    apply exec_read_congr
    exact Disk.set_of_ne (by simp [hpath])

/-! ## New databases -/

/-- `from_pk_hex`, then `write`, then `read`. -/
def createAndRead (pkHex : Str) : Enclave SlashingProtectionData := do
  let db ← liftM (fromPkHex pkHex)
  db.write
  read pkHex

/-- A database that has been written is read back under its own name and does
not concern the other names; and a database that is created for a key is the
new one of this key. -/
theorem persistence (db : SlashingProtectionData) (D : Disk) :
    (∀ faults, (exec db.write (faults, D)).1 = .ok () →
      Persisted db D (exec db.write (faults, D)).2.2) ∧
    (exec db.write ([], D)).1 = .ok () ∧
    ∀ pk : BLSPubkey,
      (exec (createAndRead (Hex.encode pk.toList)) ([], D)).1 =
        .ok (new pk) := by
  refine ⟨?_, ?_, ?_⟩
  · intro faults h
    rw [exec_write_of_ok h]
    exact persisted_set
  · rw [exec_write_nil]
  · intro pk
    have hback : Persisted (new pk) D (D.set .slashing
        (Hex.encode pk.toList) (.json (new pk).toJson)) := persisted_set
    rw [createAndRead, fromPkHex_encode, exec_bind_of_ok (exec_liftM _ _),
      exec_bind_of_ok exec_write_nil]
    exact congrArg Prod.fst (hback.own _ (.inl rfl))

/-- A database with a block at the last slot and without a signing root. -/
def lastSlotDb : SlashingProtectionData where
  pubkey := List.Vector.replicate 48 7
  signedBlocks := [⟨18446744073709551615, none⟩,
    ⟨0, some (List.Vector.replicate 32 1)⟩]
  signedAttestations := []

theorem persistence_lastSlotDb :
    Persisted lastSlotDb Disk.empty
      (exec lastSlotDb.write ([], Disk.empty)).2.2 :=
  (persistence lastSlotDb Disk.empty).1 [] (by rw [exec_write_nil])

end SlashingProtectionData

end ValidatorGuardian
