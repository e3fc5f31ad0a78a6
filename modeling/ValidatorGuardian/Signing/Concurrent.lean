import ValidatorGuardian.Signing.Sequential

/-!
# Requests handled concurrently

Any number of signing requests run at once; one file operation of one request
is one step.  Nothing keeps one request from writing a database between the
read and the write of another, and then an update is lost.  In the runs where
this does not happen, the requests that have written their key's database have
duties that precede one another, one way or the other.
-/

namespace ValidatorGuardian

open Effect Slashing

structure SigningRequest where
  blsPkHex : Str
  genesisForkVersion : Version
  req : BLSSignMsg

/-- The slashing database that a request is about. -/
def SigningRequest.dbName (r : SigningRequest) : Str :=
  slashingName r.blsPkHex

/-- Requests at work on the files, with the session of each. -/
abbrev SigningPool (ι : Type) :=
  Pool FsOp FsOp.Ans (Outcome Response) (Disk × (ι → Session)) ι

abbrev diskOf {ι : Type} (P : SigningPool ι) : Disk := P.state.1

abbrev sessionOf {ι : Type} (P : SigningPool ι) : ι → Session := P.state.2

section Pools

variable [SerdeHex] {ι : Type} [DecidableEq ι] (reqs : ι → SigningRequest)

/-- One file operation of one request. -/
def signingStep :
    ι → Handler FsOp FsOp.Ans Fault (Disk × (ι → Session)) :=
  Pool.track (fun i => signingProtocol (reqs i).dbName (reqs i).req.duty)
    fsHandler

/-- All requests have arrived and none has started. -/
def arrived [Blsttc] [Hashing] [Eth2TreeHash] (D : Disk) :
    SigningPool ι where
  state := (D, fun _ => .reading none)
  task i := (signValidatorMessage (reqs i).blsPkHex
    (reqs i).genesisForkVersion (reqs i).req).run

/-- Request `i` has been answered with a signature that performs duty `d` of
key `K`. -/
def HasReleased (P : SigningPool ι) (i : ι) (K : Str) (d : Duty ℕ) : Prop :=
  ∃ response : Response, P.task i = .ret (.ok response) ∧
    response.status = .OK ∧ strip0xPrefix (reqs i).blsPkHex = K ∧
    (reqs i).req.duty = some d

/-- No two signatures released for one key are slashable. -/
def NoSlashableReleases (P : SigningPool ι) : Prop :=
  ∀ K i j d d', i ≠ j → HasReleased reqs P i K d → HasReleased reqs P j K d' →
    ¬ d.Conflicts d'

/-- What a database records does not decrease. -/
def MarksRise (D D' : Disk) : Prop :=
  ∀ K db db', savedDb D K = some db → savedDb D' K = some db' →
    db.watermark.Below db'.watermark

/-- Throughout the runs whose steps are legal, no two releases are slashable
and no database falls back. -/
def SlashingSafe [Blsttc] [Hashing] [Eth2TreeHash] (D : Disk)
    (Legal : SigningPool ι → ι → Fault → Prop) : Prop :=
  ∀ P, Pool.Reaches (signingStep reqs) Legal (arrived reqs D) P →
    NoSlashableReleases reqs P ∧
      ∀ i f, Legal P i f →
        MarksRise (diskOf P) (diskOf (P.step (signingStep reqs) i f))

/-- A write happens wholly or not at all. -/
def AtomicFiles (_ : SigningPool ι) (_ : ι) (f : Fault) : Prop :=
  f.tears = false

/-- If request `i` is about to write, the database it read last is still the
one on disk. -/
def UnchangedSinceRead (P : SigningPool ι) (i : ι) : Prop :=
  ∀ db dir name c k, sessionOf P i = .reading (some db) →
    P.task i = .call (.write dir name c) k →
    savedDb (diskOf P) (reqs i).dbName = some db

instance (P : SigningPool ι) (i : ι) (f : Fault) :
    Decidable (AtomicFiles P i f) :=
  inferInstanceAs (Decidable (_ = _))

instance (P : SigningPool ι) (i : ι) :
    Decidable (UnchangedSinceRead reqs P i) :=
  match hsession : sessionOf P i, htask : P.task i with
  | .reading (some db), .call (.write dir name c) k =>
      decidable_of_iff (savedDb (diskOf P) (reqs i).dbName = some db)
        ⟨fun h db' _ _ _ _ hdb' _ => by
            rw [hsession] at hdb'
            cases hdb'
            exact h,
          fun h => h db dir name c k hsession htask⟩
  | .reading none, _ | .wrote _, _ =>
      isTrue fun db _ _ _ _ hdb _ => by
        rw [hsession] at hdb
        cases hdb
  | _, .ret _ | _, .call (.read _ _) _ | _, .call (.createDir _) _ =>
      isTrue fun _ _ _ _ _ _ hcall => by
        rw [htask] at hcall
        cases hcall

/-! ## The invariant -/

variable {reqs}

/-- The duties of the requests that have written are covered by the databases
of their keys, and precede one another within a key. -/
structure Recorded (D : Disk) (session : ι → Session)
    (reqs : ι → SigningRequest) : Prop where
  wellNamed : WellNamed D
  covered : ∀ i d, session i = .wrote true → (reqs i).req.duty = some d →
    ∃ db, savedDb D (reqs i).dbName = some db ∧ db.watermark.Covers d
  ordered : ∀ i j d d', i ≠ j → session i = .wrote true →
    session j = .wrote true → (reqs i).dbName = (reqs j).dbName →
    (reqs i).req.duty = some d → (reqs j).req.duty = some d' →
    d.Precedes d' ∨ d'.Precedes d

namespace Recorded

variable {D : Disk} {session : ι → Session} {i : ι}

/-- A step that does not complete a write. -/
theorem silent (h : Recorded D session reqs) {l : Session}
    (hl : l = .wrote true → session i = .wrote true) :
    Recorded D (Function.update session i l) reqs := by
  have hback : ∀ j, Function.update session i l j = .wrote true →
      session j = .wrote true := by
    intro j hj
    by_cases hji : j = i
    · subst hji
      rw [Function.update_self] at hj
      exact hl hj
    · rwa [Function.update_of_ne hji] at hj
  refine ⟨h.wellNamed, ?_, ?_⟩
  · intro j d hj
    exact h.covered j d (hback j hj)
  · intro j k d d' hjk hj hk
    exact h.ordered j k d d' hjk (hback j hj) (hback k hk)

/-- A request that records its duty in the database that is on disk. -/
theorem write (h : Recorded D session reqs)
    {db db' : SlashingProtectionData} {d : Duty ℕ}
    (hdb : savedDb D (reqs i).dbName = some db) (hrec : Records d db db')
    (hduty : (reqs i).req.duty = some d) :
    Recorded (D.set .slashing (Hex.encode db.pubkey.toList)
      (.json db'.toJson)) (Function.update session i (.wrote true)) reqs := by
  have hname : (reqs i).dbName = Hex.encode db.pubkey.toList :=
    h.wellNamed _ db hdb
  rw [← hname]
  -- the duties covered so far precede the one accepted now
  have hprecedes : ∀ j e, session j = .wrote true →
      (reqs j).dbName = (reqs i).dbName → (reqs j).req.duty = some e →
      e.Precedes d := by
    intro j e hj hsame he
    obtain ⟨db₁, hdb₁, hcovers⟩ := h.covered j e hj he
    rw [hsame, hdb] at hdb₁
    obtain rfl := Option.some.inj hdb₁
    exact Watermark.precedes_of_covers_accepts hcovers hrec.accepts
  refine ⟨?_, ?_, ?_⟩
  · intro K db₁ hK
    by_cases hKi : K = (reqs i).dbName
    · subst hKi
      rw [savedDb_set_same] at hK
      obtain rfl := Option.some.inj hK
      rw [hrec.pubkey]
      exact hname
    · rw [savedDb_set_of_ne hKi] at hK
      exact h.wellNamed K db₁ hK
  · intro j e hj he
    by_cases hsame : (reqs j).dbName = (reqs i).dbName
    · refine ⟨db', by rw [hsame, savedDb_set_same], ?_⟩
      by_cases hji : j = i
      · subst hji
        rw [hduty] at he
        obtain rfl := Option.some.inj he
        exact hrec.covers
      · rw [Function.update_of_ne hji] at hj
        obtain ⟨db₁, hdb₁, hcovers⟩ := h.covered j e hj he
        rw [hsame, hdb] at hdb₁
        obtain rfl := Option.some.inj hdb₁
        exact hcovers.mono hrec.below
    · have hji : j ≠ i := by
        rintro rfl
        exact hsame rfl
      rw [Function.update_of_ne hji] at hj
      rw [savedDb_set_of_ne hsame]
      exact h.covered j e hj he
  · intro j k e e' hjk hj hk hsame he he'
    by_cases hji : j = i
    · subst hji
      rw [hduty] at he
      obtain rfl := Option.some.inj he
      rw [Function.update_of_ne hjk.symm] at hk
      exact .inr (hprecedes k e' hk hsame.symm he')
    · rw [Function.update_of_ne hji] at hj
      by_cases hki : k = i
      · subst hki
        rw [hduty] at he'
        obtain rfl := Option.some.inj he'
        exact .inl (hprecedes j e hj hsame he)
      · rw [Function.update_of_ne hki] at hk
        exact h.ordered j k e e' hjk hj hk hsame he he'

end Recorded

/-! ## Steps and runs -/

/-- One operation of one request, when a write finds the database that was
read. -/
theorem signingProtocol_step {D : Disk} {name : Str} {duty : Option (Duty ℕ)}
    {l : Session} {op : FsOp} {f : Fault} (hf : f.tears = false)
    (hmay : (signingProtocol name duty).may l op)
    (hread : ∀ db dir n c, l = .reading (some db) → op = .write dir n c →
      savedDb D name = some db) :
    (((signingProtocol name duty).next l op (fsHandler f D op).1 =
        .wrote true → l = .wrote true) ∧
      (fsHandler f D op).2 = D) ∨
    ∃ d db db', duty = some d ∧ savedDb D name = some db ∧
      Records d db db' ∧
      (signingProtocol name duty).next l op (fsHandler f D op).1 =
        .wrote true ∧
      (fsHandler f D op).2 =
        D.set .slashing (Hex.encode db.pubkey.toList) (.json db'.toJson) := by
  cases op with
  | createDir dir =>
      left
      cases f <;> cases l <;> exact ⟨id, rfl⟩
  | read dir n =>
      have hdisk : (fsHandler f D (.read dir n)).2 = D := by cases f <;> rfl
      rw [hdisk]
      left
      cases l with
      | wrote ok => exact ⟨id, rfl⟩
      | reading seen =>
          refine ⟨fun h => ?_, rfl⟩
          cases dir <;> cases h
  | write dir n c =>
      cases l with
      | wrote ok => exact absurd hmay id
      | reading seen =>
          obtain ⟨d, db, db', hduty, rfl, hrec, rfl, rfl, rfl⟩ := hmay
          cases f with
          | torn n => cases hf
          | fails => exact .inl ⟨fun h => (by cases h), rfl⟩
          | none =>
              exact .inr ⟨d, db, db', hduty, hread db _ _ _ rfl rfl, hrec,
                rfl, rfl⟩

section Runs

variable [Blsttc] [Hashing] [Eth2TreeHash]

/-- The protocols of the requests. -/
def KeepsProtocol (reqs : ι → SigningRequest) (P : SigningPool ι) : Prop :=
  P.Conforms (fun i => signingProtocol (reqs i).dbName (reqs i).req.duty)
    fun i l r => ∀ response, r = .ok response → response.status = .OK →
      Released (reqs i).blsPkHex (reqs i).genesisForkVersion (reqs i).req l
        response

/-- The invariant of the pool. -/
structure PoolSafe (reqs : ι → SigningRequest) (P : SigningPool ι) :
    Prop where
  protocol : KeepsProtocol reqs P
  recorded : Recorded (diskOf P) (sessionOf P) reqs

omit [DecidableEq ι] in
theorem poolSafe_arrived {D : Disk} (hD : WellNamed D) :
    PoolSafe reqs (arrived reqs D) where
  protocol i := conforms_signValidatorMessage
  recorded := by
    refine ⟨hD, ?_, ?_⟩
    · intro i d h
      cases h
    · intro i j d d' _ h
      cases h

/-- A step that leaves the database of the request as it is, or records the
duty of the request in it. -/
theorem step_cases {P : SigningPool ι} (hP : PoolSafe reqs P) {i : ι}
    {f : Fault} (hf : f.tears = false) (hread : UnchangedSinceRead reqs P i) :
    (∃ l, (l = .wrote true → sessionOf P i = .wrote true) ∧
      (P.step (signingStep reqs) i f).state =
        (diskOf P, Function.update (sessionOf P) i l)) ∨
    ∃ d db db', (reqs i).req.duty = some d ∧
      savedDb (diskOf P) (reqs i).dbName = some db ∧ Records d db db' ∧
      (P.step (signingStep reqs) i f).state =
        ((diskOf P).set .slashing (Hex.encode db.pubkey.toList)
            (.json db'.toJson),
          Function.update (sessionOf P) i (.wrote true)) := by
  cases htask : P.task i with
  | ret r =>
      refine .inl ⟨sessionOf P i, id, ?_⟩
      rw [Pool.step_ret htask, Function.update_eq_self]
  | call op k =>
      have hi := hP.protocol i
      rw [htask] at hi
      have hcurrent : ∀ db dir n c, sessionOf P i = .reading (some db) →
          op = .write dir n c →
            savedDb (diskOf P) (reqs i).dbName = some db := by
        rintro db dir n c hs rfl
        exact hread db dir n c k hs htask
      have hcall := signingProtocol_step hf hi.1 hcurrent
      rw [Pool.step_call htask]
      rcases hcall with ⟨hl, hD⟩ | ⟨d, db, db', hduty, hdb, hrec, hl, hD⟩
      · exact .inl ⟨_, hl, Prod.ext hD rfl⟩
      · refine .inr ⟨d, db, db', hduty, hdb, hrec, Prod.ext hD ?_⟩
        exact congrArg (Function.update (sessionOf P) i) hl

theorem PoolSafe.step {P : SigningPool ι} (hP : PoolSafe reqs P) {i : ι}
    {f : Fault} (hf : f.tears = false) (hread : UnchangedSinceRead reqs P i) :
    PoolSafe reqs (P.step (signingStep reqs) i f) := by
  refine ⟨Pool.Conforms.step hP.protocol i f, ?_⟩
  rcases step_cases hP hf hread with
    ⟨l, hl, hstate⟩ | ⟨d, db, db', hduty, hdb, hrec, hstate⟩
  · rw [diskOf, sessionOf, hstate]
    exact hP.recorded.silent hl
  · rw [diskOf, sessionOf, hstate]
    exact hP.recorded.write hdb hrec hduty

theorem PoolSafe.marksRise {P : SigningPool ι} (hP : PoolSafe reqs P) {i : ι}
    {f : Fault} (hf : f.tears = false) (hread : UnchangedSinceRead reqs P i) :
    MarksRise (diskOf P) (diskOf (P.step (signingStep reqs) i f)) := by
  intro K db₁ db₂ h₁ h₂
  rcases step_cases hP hf hread with
    ⟨l, -, hstate⟩ | ⟨d, db, db', -, hdb, hrec, hstate⟩
  · rw [diskOf, hstate] at h₂
    rw [h₁] at h₂
    obtain rfl := Option.some.inj h₂
    exact Watermark.Below.refl _
  · rw [diskOf, hstate, ← hP.recorded.wellNamed _ db hdb] at h₂
    by_cases hK : K = (reqs i).dbName
    · subst hK
      rw [savedDb_set_same] at h₂
      obtain rfl := Option.some.inj h₂
      rw [h₁] at hdb
      obtain rfl := Option.some.inj hdb
      exact hrec.below
    · rw [savedDb_set_of_ne hK, h₁] at h₂
      obtain rfl := Option.some.inj h₂
      exact Watermark.Below.refl _

omit [DecidableEq ι] in
theorem PoolSafe.noSlashableReleases {P : SigningPool ι}
    (hP : PoolSafe reqs P) : NoSlashableReleases reqs P := by
  have hwrote : ∀ i K d, HasReleased reqs P i K d →
      sessionOf P i = .wrote true := by
    rintro i K d ⟨response, htask, hstatus, -, hduty⟩
    have hi := hP.protocol i
    rw [htask] at hi
    exact (hi response rfl hstatus).recorded (by simp [hduty])
  intro K i j d d' hij hi hj
  have hi' := hwrote i K d hi
  have hj' := hwrote j K d' hj
  obtain ⟨_, -, -, hKi, hdi⟩ := hi
  obtain ⟨_, -, -, hKj, hdj⟩ := hj
  have hname : (reqs i).dbName = (reqs j).dbName := by
    rw [SigningRequest.dbName, SigningRequest.dbName, slashingName,
      slashingName, hKi, hKj]
  rcases hP.recorded.ordered i j d d' hij hi' hj' hname hdi hdj with h | h
  · exact h.not_conflicts
  · exact fun hconflict => h.not_conflicts hconflict.symm

/-- In every run in which each write finds the database that its request read
last, no two releases are slashable and no update is lost. -/
theorem concurrent_slashing_safety {D : Disk} (hD : WellNamed D)
    (reqs : ι → SigningRequest) :
    SlashingSafe reqs D fun P i f =>
      AtomicFiles P i f ∧ UnchangedSinceRead reqs P i := by
  intro P hrun
  have hP : PoolSafe reqs P := by
    refine Pool.reaches_invariant hrun (poolSafe_arrived hD) ?_
    intro Q i f hlegal hQ
    exact hQ.step hlegal.1 hlegal.2
  refine ⟨hP.noSlashableReleases, ?_⟩
  intro i f hlegal
  exact hP.marksRise hlegal.1 hlegal.2

end Runs

end Pools

/-! ## A race -/

section SampleRace

open Exponent

/-- Two requests for one key, for different blocks in one slot. -/
def rivalRequests : Bool → SigningRequest
  | false => ⟨keyName 3, GENESIS_FORK_VERSION, blockAt 8⟩
  | true => ⟨keyName 3, GENESIS_FORK_VERSION, .BLOCK_V2 {
      forkInfo := genesisForkInfo
      signingRoot := none
      beaconBlock := {
        version := []
        blockHeader := { emptyHeader 8 with
          stateRoot := List.Vector.replicate 32 1 } } }⟩

/-- What request `i` has been answered is a signature. -/
def isSigned (P : SigningPool Bool) (i : Bool) : Bool :=
  ((P.task i).result?.bind Except.toOption).map Response.status == some .OK

theorem hasReleased_of_isSigned {P : SigningPool Bool} {i : Bool}
    (h : isSigned P i = true) :
    HasReleased rivalRequests P i (keyName 3) (.block 8) := by
  obtain ⟨response, hresponse, hstatus⟩ :=
    Option.map_eq_some_iff.mp (beq_iff_eq.mp h)
  obtain ⟨r, hr, hok⟩ := Option.bind_eq_some_iff.mp hresponse
  refine ⟨response, ?_, hstatus, ?_, ?_⟩
  · rw [Program.eq_ret_of_result? hr, Outcome.toOption_eq_some.mp hok]
  · cases i <;> decide +kernel
  · cases i <;> rfl

/-- One request is served and then the other. -/
def inOrder : List (Bool × Fault) :=
  List.replicate 5 (false, .none) ++ List.replicate 5 (true, .none)

theorem concurrent_slashing_safety_rivals :
    (SlashingSafe rivalRequests importedStore fun P i f =>
      AtomicFiles P i f ∧ UnchangedSinceRead rivalRequests P i) ∧
    ∃ P, Pool.Reaches (signingStep rivalRequests)
        (fun P i f => AtomicFiles P i f ∧ UnchangedSinceRead rivalRequests P i)
        (arrived rivalRequests importedStore) P ∧
      HasReleased rivalRequests P false (keyName 3) (.block 8) :=
  ⟨concurrent_slashing_safety wellNamed_importedStore rivalRequests,
    (arrived rivalRequests importedStore).runSchedule
      (signingStep rivalRequests) inOrder,
    Pool.LegalSchedule.reaches (by decide +kernel),
    hasReleased_of_isSigned (by decide +kernel)⟩

/-- The requests take turns: both read before either writes. -/
def turns : List (Bool × Fault) :=
  (List.replicate 5 [(false, .none), (true, .none)]).flatten

/-- Both requests after the race. -/
def afterRace : SigningPool Bool :=
  (arrived rivalRequests importedStore).runSchedule
    (signingStep rivalRequests) turns

theorem reaches_afterRace :
    Pool.Reaches (signingStep rivalRequests) AtomicFiles
      (arrived rivalRequests importedStore) afterRace := by
  apply Pool.reaches_runSchedule
  intro e he Q
  have hnone : e.2 = .none := by
    revert e
    decide
  rw [AtomicFiles, hnone]
  rfl

theorem hasReleased_afterRace (i : Bool) :
    HasReleased rivalRequests afterRace i (keyName 3) (.block 8) := by
  have hsigned : ∀ i, isSigned afterRace i = true := by
    decide +kernel
  exact hasReleased_of_isSigned (hsigned i)

/-- Both blocks are signed. -/
theorem not_slashingSafe_rivals :
    ¬ SlashingSafe rivalRequests importedStore AtomicFiles := by
  intro hsafe
  obtain ⟨hnone, -⟩ := hsafe afterRace reaches_afterRace
  exact hnone _ false true _ _ (by simp) (hasReleased_afterRace false)
    (hasReleased_afterRace true) (.inl rfl)

end SampleRace

end ValidatorGuardian
