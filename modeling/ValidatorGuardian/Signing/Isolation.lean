import ValidatorGuardian.Signing.Concurrent

/-!
# Keys do not interfere

A request is answered from the files of its own key.  It reads only those, so
two stores that agree on them answer it alike; and it writes only the database
that it has read, so it leaves the files of every other key alone.  Taking the
requests for other keys out of a run therefore changes nothing for a key.
-/

namespace ValidatorGuardian

open Effect Slashing

/-! ## Key strings -/

/-- The hex of a public key: 96 lower-case digits. -/
structure KeyHex (K : Str) : Prop where
  length : K.length = 2 * BLS_PUB_KEY_BYTES
  digits : ∀ c ∈ K, ∃ n < 16, c = Hex.digit n

namespace KeyHex

variable {K path : Str}

theorem strip (hK : KeyHex K) : strip0xPrefix K = K := by
  unfold strip0xPrefix
  split
  · next rest =>
      have hmem : 'x' ∈ '0' :: 'x' :: rest := by simp
      obtain ⟨n, hn, hx⟩ := hK.digits 'x' hmem
      exact absurd hx.symm (Hex.digit_ne_x hn)
  · rfl

theorem len (hK : KeyHex K) : Str.len K = 2 * BLS_PUB_KEY_BYTES := by
  have hsize : ∀ c ∈ K, c.utf8Size = 1 := by
    intro c hc
    obtain ⟨n, hn, rfl⟩ := hK.digits c hc
    exact Hex.digit_utf8Size hn
  rw [Str.len, List.map_congr_left hsize, List.map_const', List.sum_replicate,
    smul_eq_mul, mul_one, hK.length]

theorem ofBytes (b : Bytes 48) : KeyHex (Hex.encode b.toList) where
  length := by simp [BLS_PUB_KEY_BYTES]
  digits _ hc := Hex.exists_digit_of_mem_encode hc

/-- A path is sanitised to a key exactly when it is the key or its prefixed
form. -/
theorem sanitize_iff (hK : KeyHex K) :
    sanitizeBlsPkHex path = .ok K ↔ strip0xPrefix path = K := by
  rw [sanitizeBlsPkHex_eq_ok]
  constructor
  · exact fun h => h.2
  · rintro rfl
    exact ⟨hK.len, rfl⟩

/-- A path of the right length that leads to the database of a key is
sanitised to that key. -/
theorem sanitize_of_slashingName (hK : KeyHex K) {K' : Str}
    (hpath : sanitizeBlsPkHex path = .ok K')
    (hname : slashingName path = K) : sanitizeBlsPkHex path = .ok K := by
  obtain ⟨hlen, rfl⟩ := sanitizeBlsPkHex_eq_ok.mp hpath
  rcases eq_or_prefixed_of_strip0xPrefix hname with heq | hprefixed
  · exact hK.sanitize_iff.mpr heq
  · -- a second prefix would make the path too long
    have htwo : Str.len ('0' :: 'x' :: K) = 2 + Str.len K := by
      simp only [Str.len, List.map_cons, List.sum_cons]
      have hzero : '0'.utf8Size = 1 := by decide
      have hx : 'x'.utf8Size = 1 := by decide
      omega
    rw [hprefixed, htwo, hK.len] at hlen
    omega

end KeyHex

/-! ## Requests read the files of their key -/

/-- No file is read but those of one name. -/
def readsOnly (name : Str) : Protocol FsOp FsOp.Ans Unit where
  may
    | _, .read _ n => n = name
    | _, _ => True
  next l _ _ := l

/-- Two stores have the same files of one name. -/
def SameFiles (name : Str) (D D' : Disk) : Prop :=
  ∀ dir, D dir name = D' dir name

/-- A call that reads only these files is answered alike, and leaves them
alike. -/
theorem sameFiles_step {name : Str} (l : Unit) (op : FsOp) (f : Fault)
    (D D' : Disk) (hmay : (readsOnly name).may l op)
    (hD : SameFiles name D D') :
    (fsHandler f D op).1 = (fsHandler f D' op).1 ∧
      SameFiles name (fsHandler f D op).2 (fsHandler f D' op).2 := by
  have hset : ∀ dir n c,
      SameFiles name (D.set dir n c) (D'.set dir n c) := by
    intro dir n c dir'
    simp only [Disk.set, hD dir']
  cases op with
  | createDir dir => cases f <;> exact ⟨rfl, hD⟩
  | read dir n =>
      obtain rfl : n = name := hmay
      cases f with
      | none => exact ⟨hD dir, hD⟩
      | fails => exact ⟨rfl, hD⟩
      | torn k => exact ⟨rfl, hD⟩
  | write dir n c =>
      cases f with
      | none => exact ⟨rfl, hset dir n c⟩
      | fails => exact ⟨rfl, hD⟩
      | torn k => exact ⟨rfl, hset dir n (c.tornAt k)⟩

section Requests

variable [Blsttc] [SerdeHex] [Hashing] [Eth2TreeHash] {K path : Str}
  {v : Version} {req : BLSSignMsg}

omit [Blsttc] in
theorem readsOnly_updateSlashProtectionDb (hK : strip0xPrefix K = K) :
    Conforms (readsOnly K) (fun _ _ => True) ()
      (updateSlashProtectionDb K req) := by
  refine Conforms.bind (F := fun _ _ => True)
    (Conforms.readDb hK (fun _ _ _ => trivial) (fun _ _ => trivial)) ?_
    (fun _ _ _ => trivial)
  intro _ db _
  refine Conforms.bind (F := fun _ _ => True) (Conforms.lift trivial) ?_
    (fun _ _ _ => trivial)
  intro _ db' _
  refine Conforms.bind (F := fun _ _ => True)
    (Conforms.withContext (Conforms.createDirAll trivial fun _ => trivial))
    ?_ (fun _ _ _ => trivial)
  intro _ _ _
  exact Conforms.withContext (Conforms.writeFile trivial fun _ => trivial)

omit [SerdeHex] [Hashing] [Eth2TreeHash] in
theorem readsOnly_signMessage (hK : strip0xPrefix K = K) {root : Root} :
    Conforms (readsOnly K) (fun _ _ => True) () (signMessage K root) := by
  have hmay : (readsOnly K).may () (.read .blsKeys
      (strip0xPrefix (strip0xPrefix K))) := by
    rw [hK, hK]
    rfl
  exact (Conforms.signMessage hmay fun _ => rfl).weaken fun _ _ _ => trivial

/-- A request that is sanitised to `K` reads the files of `K`. -/
theorem readsOnly_signSanitized (hK : strip0xPrefix K = K)
    (hpath : strip0xPrefix path = K) :
    Conforms (readsOnly K) (fun _ _ => True) ()
      (signSanitized path v req) := by
  have hsanitized : ∀ K', sanitizeBlsPkHex path = .ok K' → K' = K := by
    intro K' hK'
    rw [← hpath]
    exact (sanitizeBlsPkHex_eq_ok.mp hK').2.symm
  refine Conforms.attemptBind (F := fun _ r => ∀ K', r = .ok K' → K' = K)
    (Conforms.lift hsanitized) ?_ (fun _ _ _ => Conforms.pure trivial)
    (fun _ _ => trivial)
  intro _ K' hK'
  obtain rfl := hK' K' rfl
  have hcheck : Conforms (readsOnly K') (fun _ _ => True) ()
      (isSlashable K' req) := by
    refine Conforms.bind (F := fun _ _ => True)
      (Conforms.readDb hK (fun _ _ _ => trivial) (fun _ _ => trivial)) ?_
      (fun _ _ _ => trivial)
    intro _ db _
    cases req <;> exact Conforms.pure trivial
  refine Conforms.attemptBind hcheck ?_ (fun _ _ _ => Conforms.pure trivial)
    (fun _ _ => trivial)
  intro _ slashable _
  cases slashable with
  | true => exact Conforms.pure trivial
  | false =>
  by_cases hslash : req.canBeSlashed = true
  · simp only [hslash, if_true]
    refine Conforms.attemptBind (readsOnly_updateSlashProtectionDb hK) ?_
      (fun _ _ _ => Conforms.pure trivial) (fun _ _ => trivial)
    intro _ u _
    exact readsOnly_signMessage hK
  · simp only [hslash]
    exact readsOnly_signMessage hK

theorem readsOnly_signValidatorMessage (hK : strip0xPrefix K = K)
    (hpath : strip0xPrefix path = K) :
    Conforms (readsOnly K) (fun _ _ => True) ()
      (signValidatorMessage path v req) := by
  unfold signValidatorMessage
  split
  · exact Conforms.pure trivial
  · exact readsOnly_signSanitized hK hpath

end Requests

/-! ## Requests served one at a time -/

/-- A signing request, with the faults that happen while it is handled. -/
structure ServedRequest extends SigningRequest where
  faults : List Fault

/-- The sanitised path of the request is `K`. -/
def ServedRequest.isFor (K : Str) (r : ServedRequest) : Bool :=
  decide ((sanitizeBlsPkHex r.blsPkHex).toOption = some K)

theorem ServedRequest.isFor_iff {K : Str} {r : ServedRequest} :
    r.isFor K = true ↔ sanitizeBlsPkHex r.blsPkHex = .ok K := by
  rw [isFor, decide_eq_true_iff, Outcome.toOption_eq_some]

section Served

variable [Blsttc] [SerdeHex] [Hashing] [Eth2TreeHash] {K : Str}
  {D D' : Disk}

/-- The answer to a request, and the files after it. -/
def ServedRequest.handle (r : ServedRequest) (D : Disk) :
    Outcome Response × Disk :=
  let out := exec
    (signValidatorMessage r.blsPkHex r.genesisForkVersion r.req)
    (r.faults, D)
  (out.1, out.2.2)

/-- Stores with the same files of a key answer a request for it alike, and
still have the same files of it afterwards. -/
theorem ServedRequest.handle_alike (hK : KeyHex K) {r : ServedRequest}
    (hr : sanitizeBlsPkHex r.blsPkHex = .ok K) (hD : SameFiles K D D') :
    (r.handle D).1 = (r.handle D').1 ∧
      SameFiles K (r.handle D).2 (r.handle D').2 := by
  have hpath := hK.sanitize_iff.mp hr
  exact Program.Conforms.run_related
    (readsOnly_signValidatorMessage hK.strip hpath) sameFiles_step hD

/-- A malformed path changes no file. -/
theorem ServedRequest.handle_of_malformed {r : ServedRequest}
    (hr : ∀ K, sanitizeBlsPkHex r.blsPkHex ≠ .ok K) :
    (r.handle D).2 = D := by
  have htriple : Triple (fun _ => True) (· = D)
      (signSanitized r.blsPkHex r.genesisForkVersion r.req)
      fun _ D' => D' = D := by
    refine (Query.lift (sanitizeBlsPkHex r.blsPkHex)).attemptBind ?_ ?_ ?_
    · rintro K faults D' - ⟨-, hK⟩
      exact absurd hK (hr K)
    · exact fun e => Triple.pure fun D' hD' => hD'
    · exact fun D' _ hpanic => absurd hpanic (sanitizeBlsPkHex_ne_panic _)
  unfold handle signValidatorMessage
  split
  · rfl
  · exact htriple.exec_spec (fun _ _ => trivial) rfl

/-- A request writes the database that it reads, if any. -/
theorem ServedRequest.handle_cases (hD : WellNamed D) (r : ServedRequest) :
    (r.handle D).2 = D ∨
      ∃ c, (∀ db, SlashingProtectionData.ofContents c = some db →
          slashingName r.blsPkHex = Hex.encode db.pubkey.toList) ∧
        (r.handle D).2 = D.set .slashing (slashingName r.blsPkHex) c := by
  obtain ⟨l, hfiles, -⟩ := exec_signValidatorMessage r.faults D r.blsPkHex
    r.genesisForkVersion r.req
  cases l with
  | reading seen => exact .inl hfiles.1
  | wrote ok =>
      cases ok with
      | false =>
          rcases hfiles with hsame | ⟨db, hdb, hset⟩
          · exact .inl hsame
          · rw [← hD _ db hdb] at hset
            exact .inr ⟨_, (fun db' hdb' => by cases hdb'), hset⟩
      | true =>
          obtain ⟨d, db, db', -, hdb, hrec, hset⟩ := hfiles
          rw [← hD _ db hdb] at hset
          refine .inr ⟨_, ?_, hset⟩
          intro db'' hdb''
          rw [SlashingProtectionData.ofContents_toJson] at hdb''
          rw [← Option.some.inj hdb'', hrec.pubkey]
          exact hD _ db hdb

/-- A request keeps the names of the slashing files right. -/
theorem ServedRequest.wellNamed_handle (hD : WellNamed D)
    (r : ServedRequest) : WellNamed (r.handle D).2 := by
  rcases r.handle_cases hD with hsame | ⟨c, hname, hset⟩
  · rw [hsame]
    exact hD
  · rw [hset]
    exact hD.set hname

/-- A request that is not sanitised to `K` leaves the files of `K` alone. -/
theorem ServedRequest.sameFiles_handle (hK : KeyHex K) (hD : WellNamed D)
    {r : ServedRequest} (hr : sanitizeBlsPkHex r.blsPkHex ≠ .ok K) :
    SameFiles K (r.handle D).2 D := by
  intro dir
  by_cases hformed : ∃ K', sanitizeBlsPkHex r.blsPkHex = .ok K'
  · obtain ⟨K', hK'⟩ := hformed
    have hne : slashingName r.blsPkHex ≠ K :=
      fun hname => hr (hK.sanitize_of_slashingName hK' hname)
    rcases r.handle_cases hD with hsame | ⟨c, -, hset⟩
    · rw [hsame]
    · rw [hset, Disk.set_of_ne fun h => hne h.2.symm]
  · rw [handle_of_malformed fun K' hK' => hformed ⟨K', hK'⟩]

/-! ## Runs of requests -/

/-- Every request of a list with its answer, and the files in the end. -/
def serve (D : Disk) :
    List ServedRequest → List (ServedRequest × Outcome Response) × Disk
  | [] => ([], D)
  | r :: rest =>
      let later := serve (r.handle D).2 rest
      ((r, (r.handle D).1) :: later.1, later.2)

/-- Two runs, one of them without the requests for other keys. -/
theorem serve_alike (hK : KeyHex K) (requests : List ServedRequest)
    (hD : WellNamed D) (hsame : SameFiles K D D') :
    (serve D requests).1.filter (fun e => e.1.isFor K) =
        (serve D' (requests.filter (·.isFor K))).1 ∧
      SameFiles K (serve D requests).2
        (serve D' (requests.filter (·.isFor K))).2 := by
  induction requests generalizing D D' with
  | nil => exact ⟨rfl, hsame⟩
  | cons r rest ih =>
      have hnamed := r.wellNamed_handle hD
      by_cases hr : r.isFor K = true
      · obtain ⟨hanswer, hfiles⟩ :=
          ServedRequest.handle_alike hK (ServedRequest.isFor_iff.mp hr) hsame
        obtain ⟨hlog, hend⟩ := ih hnamed hfiles
        rw [List.filter_cons_of_pos hr]
        simp only [serve, List.filter_cons, hr, if_true, hlog, hanswer,
          true_and]
        exact hend
      · have hpath : sanitizeBlsPkHex r.blsPkHex ≠ .ok K :=
          fun h => hr (ServedRequest.isFor_iff.mpr h)
        have hother := ServedRequest.sameFiles_handle hK hD hpath
        obtain ⟨hlog, hend⟩ :=
          ih hnamed fun dir => (hother dir).trans (hsame dir)
        rw [List.filter_cons_of_neg hr]
        simp only [serve, List.filter_cons, hr]
        exact ⟨hlog, hend⟩

/-- The answers to the requests for a key, and its slashing database in the
end, are those of a run of these requests alone. -/
theorem keys_do_not_interfere (hD : WellNamed D) (hK : KeyHex K)
    (requests : List ServedRequest) :
    (serve D requests).1.filter (fun e => e.1.isFor K) =
        (serve D (requests.filter (·.isFor K))).1 ∧
      (serve D requests).2 .slashing K =
        (serve D (requests.filter (·.isFor K))).2 .slashing K := by
  obtain ⟨hlog, hfiles⟩ := serve_alike hK requests hD fun _ => rfl
  exact ⟨hlog, hfiles .slashing⟩

end Served

section SampleRequests

open Exponent

/-- Requests for the stored key, among one for a key without files and one
with two prefixes. -/
def mixedRequests : List ServedRequest :=
  [⟨⟨keyName 5, GENESIS_FORK_VERSION, blockAt 100⟩, []⟩,
    ⟨⟨keyName 3, GENESIS_FORK_VERSION, blockAt 8⟩, []⟩,
    ⟨⟨'0' :: 'x' :: '0' :: 'x' :: keyName 3, GENESIS_FORK_VERSION,
      blockAt 100⟩, []⟩,
    ⟨⟨keyName 3, GENESIS_FORK_VERSION, blockAt 9⟩,
      [.none, .none, .none, .fails]⟩,
    ⟨⟨'0' :: 'x' :: keyName 3, GENESIS_FORK_VERSION, blockAt 10⟩, []⟩]

theorem keys_do_not_interfere_mixedRequests :
    (serve importedStore mixedRequests).1.filter
        (fun e => e.1.isFor (keyName 3)) =
      (serve importedStore
        (mixedRequests.filter (·.isFor (keyName 3)))).1 ∧
    (serve importedStore mixedRequests).2 .slashing (keyName 3) =
      (serve importedStore
        (mixedRequests.filter (·.isFor (keyName 3)))).2 .slashing
        (keyName 3) ∧
    (mixedRequests.filter (·.isFor (keyName 3))).length = 3 := by
  have hK : KeyHex (keyName 3) := KeyHex.ofBytes (toBytes 48 3)
  obtain ⟨hlog, hfile⟩ :=
    keys_do_not_interfere wellNamed_importedStore hK mixedRequests
  exact ⟨hlog, hfile, by decide +kernel⟩

end SampleRequests

end ValidatorGuardian
