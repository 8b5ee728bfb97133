import Mathlib.Algebra.Group.Int
import EdgeSync.Common

/-!
# Leader election on the `leader` collection

The nodes of the cloud side elect the one that runs the maintenance loop through a single
document of the collection `leader`, at `_id = 1` (§4.5 of the specification): a node
bootstraps it with `InsertInitialLeader`, the leader renews its lease with
`LeaderPeriodicUpdate`, a node that finds the lease expired takes it over with
`UpdateLeader(uuid, version)`, conditional on the version it observed, and a leader gives it
up with `ResignLeadership`.

Each of these functions makes one backend call, so any interleaving of the calls of any
number of nodes is a sequence of calls (`leaderRun`).  Over every such sequence from the empty
collection the document, once inserted, stays, its version grows by one exactly at each
successful takeover, at most one takeover succeeds per version, the document names the node
of the last successful bootstrap or takeover, and that node is the one whose heartbeat
succeeds (`leader_takeover_exclusive`).  The version is an `int64` incremented without a
check, so this holds while the versions the nodes observe are below `2^63 - 1`.

The `insert`, `update` and `fetchOne` helpers are part of the repository but not of the
sources at hand; they are modelled from §4.1 and §4.2 of the specification.  The
`leadershipTimeout` of the configuration is a parameter.
-/

namespace EdgeSync

/-- An `int64` sum: the integer wrapped into `[-2^63, 2^63)`. -/
def toInt64 (x : Int) : Int := (x + 2 ^ 63) % 2 ^ 64 - 2 ^ 63

theorem toInt64_of_lt {x : Int} (h₁ : -2 ^ 63 ≤ x) (h₂ : x < 2 ^ 63) : toInt64 x = x := by
  unfold toInt64; omega

/-- The leader document (`leaderDocument`); its `_id` is always `1`. -/
structure LeaderDocument where
  uuid : String
  /-- The `last-heartbeat-ts` server timestamp. -/
  lastHeartbeatTS : Nat
  heartbeatTimeout : Int
  version : Int
deriving DecidableEq, Repr

/-- The `leader` collection, which holds the document `_id = 1` or nothing, and the server
clock behind `$currentDate`. -/
structure LeaderStore where
  doc : Option LeaderDocument
  clock : Nat
deriving DecidableEq, Repr

/-- The collection before any node bootstraps it. -/
def LeaderStore.empty : LeaderStore := ⟨none, 0⟩

/-- `bson.NewMongoTimestamp(time.Date(1970, 1, 1, 0, 0, 0, 0, time.UTC), 1)`: second `0`,
ordinal `1`. -/
def epochTimestamp : Nat := 1

namespace LeaderStore

/-- Modelled from the spec: `insert` of the document `_id = 1`, a duplicate key when it is
there.  The server gives a `last-heartbeat-ts` left at the zero timestamp a fresh one, as on
the other collections. -/
def insert (s : LeaderStore) (doc : LeaderDocument) : Except MgoError LeaderStore :=
  match s.doc with
  | some _ => .error .dup
  | none =>
    .ok ⟨some (if doc.lastHeartbeatTS = 0 then { doc with lastHeartbeatTS := s.clock + 1 } else doc),
      s.clock + 1⟩

/-- Modelled from the spec: `update` of the document `_id = 1` when it matches `filter`;
`$currentDate` on `last-heartbeat-ts` stamps it with a fresh server timestamp. -/
def update (s : LeaderStore) (filter : LeaderDocument → Bool) (set : LeaderDocument → LeaderDocument)
    (currentDate : Bool) : Except MgoError LeaderStore :=
  match s.doc with
  | some d =>
    if filter d then
      if currentDate then .ok ⟨some { set d with lastHeartbeatTS := s.clock + 1 }, s.clock + 1⟩
      else .ok { s with doc := some (set d) }
    else .error .notFound
  | none => .error .notFound

/-- Modelled from the spec: `fetchOne` of the document `_id = 1`. -/
def fetch (s : LeaderStore) : Except MgoError LeaderDocument :=
  match s.doc with
  | some d => .ok d
  | none => .error .notFound

end LeaderStore

/-! ### The calls -/

section Calls

variable (leadershipTimeout : Int)

/-- `InsertInitialLeader`. -/
def insertInitialLeader (s : LeaderStore) (leaderID : String) : Except SyncServiceError Bool × LeaderStore :=
  let doc : LeaderDocument :=
    { uuid := leaderID, lastHeartbeatTS := 0, heartbeatTimeout := leadershipTimeout, version := 1 }
  match s.insert doc with
  | .ok s => (.ok true, s)
  | .error .dup => (.ok false, s)
  | .error e =>
    (.error (.error s!"Failed to insert document into syncLeaderElection collection. Error: {e.text}\n"), s)

/-- `LeaderPeriodicUpdate`. -/
def leaderPeriodicUpdate (s : LeaderStore) (leaderID : String) : Except SyncServiceError Bool × LeaderStore :=
  match s.update (fun d => d.uuid == leaderID) id true with
  | .ok s => (.ok true, s)
  | .error .notFound => (.ok false, s)
  | .error e =>
    (.error (.error s!"Failed to update the document in the syncLeaderElection collection. Error: {e.text}\n"), s)

/-- `RetrieveLeader`: the uuid, the heartbeat timeout, the last heartbeat and the version. -/
def retrieveLeader (s : LeaderStore) : Except SyncServiceError (String × Int × Nat × Int) :=
  match s.fetch with
  | .ok d => .ok (d.uuid, d.heartbeatTimeout, d.lastHeartbeatTS, d.version)
  | .error e =>
    .error (.error s!"Failed to fetch the document in the syncLeaderElection collection. Error: {e.text}")

/-- `UpdateLeader`: the takeover, conditional on the version observed. -/
def updateLeader (s : LeaderStore) (leaderID : String) (version : Int) :
    Except SyncServiceError Bool × LeaderStore :=
  let takeover (d : LeaderDocument) : LeaderDocument :=
    { d with uuid := leaderID, heartbeatTimeout := leadershipTimeout, version := toInt64 (version + 1) }
  match s.update (fun d => d.version == version) takeover true with
  | .ok s => (.ok true, s)
  | .error .notFound => (.ok false, s)
  | .error e =>
    (.error (.error s!"Failed to update the document in the syncLeaderElection collection. Error: {e.text}\n"), s)

/-- `ResignLeadership`: the last heartbeat goes back to the epoch, so that the lease has
expired for every node. -/
def resignLeadership (s : LeaderStore) (leaderID : String) : Except SyncServiceError Unit × LeaderStore :=
  match s.update (fun d => d.uuid == leaderID) (fun d => { d with lastHeartbeatTS := epochTimestamp })
      false with
  | .ok s => (.ok (), s)
  | .error .notFound => (.ok (), s)
  | .error e =>
    (.error (.error s!"Failed to update the document in the syncLeaderElection collection. Error: {e.text}\n"), s)

end Calls

/-- A call of a node on the `leader` collection. -/
inductive LeaderCall
  | insertInitialLeader (leaderID : String)
  | leaderPeriodicUpdate (leaderID : String)
  | retrieveLeader
  | updateLeader (leaderID : String) (version : Int)
  | resignLeadership (leaderID : String)
deriving DecidableEq, Repr

/-- What a call returns when it does not fail. -/
inductive LeaderReply
  /-- The flag of `InsertInitialLeader`, `LeaderPeriodicUpdate` and `UpdateLeader`. -/
  | success (ok : Bool)
  /-- The document as `RetrieveLeader` returns it. -/
  | leader (uuid : String) (heartbeatTimeout : Int) (lastHeartbeatTS : Nat) (version : Int)
  /-- `ResignLeadership` returned. -/
  | resigned
deriving DecidableEq, Repr

/-- A call made on the collection: its reply and the collection it leaves. -/
def LeaderCall.run (leadershipTimeout : Int) (s : LeaderStore) :
    LeaderCall → Except SyncServiceError LeaderReply × LeaderStore
  | .insertInitialLeader leaderID =>
    let r := EdgeSync.insertInitialLeader leadershipTimeout s leaderID; (r.1.map .success, r.2)
  | .leaderPeriodicUpdate leaderID =>
    let r := EdgeSync.leaderPeriodicUpdate s leaderID; (r.1.map .success, r.2)
  | .retrieveLeader => ((EdgeSync.retrieveLeader s).map fun (u, t, ts, v) => .leader u t ts v, s)
  | .updateLeader leaderID version =>
    let r := EdgeSync.updateLeader leadershipTimeout s leaderID version; (r.1.map .success, r.2)
  | .resignLeadership leaderID =>
    let r := EdgeSync.resignLeadership s leaderID; (r.1.map fun _ => .resigned, r.2)

/-- The calls made one after the other: their replies and the final collection. -/
def leaderRun (leadershipTimeout : Int) :
    LeaderStore → List LeaderCall → List (Except SyncServiceError LeaderReply) × LeaderStore
  | s, [] => ([], s)
  | s, c :: cs =>
    let r := c.run leadershipTimeout s
    let rest := leaderRun leadershipTimeout r.2 cs
    (r.1 :: rest.1, rest.2)

/-! ### What a call does -/

/-- The uuid of the leader document, when there is one. -/
def LeaderStore.leader (s : LeaderStore) : Option String := s.doc.map LeaderDocument.uuid

/-- The version of the leader document, when there is one. -/
def LeaderStore.version (s : LeaderStore) : Option Int := s.doc.map LeaderDocument.version

theorem LeaderStore.isSome_doc (s : LeaderStore) : s.doc.isSome = s.version.isSome := by
  simp [LeaderStore.version]

/-- A call with its reply. -/
abbrev LeaderEvent := LeaderCall × Except SyncServiceError LeaderReply

/-- The version a successful takeover won: `v` for an `UpdateLeader(_, v)` that returned
`true`. -/
def takeoverVersion : LeaderEvent → Option Int
  | (.updateLeader _ v, r) => if r = .ok (.success true) then some v else none
  | _ => none

/-- The node that became the leader: that of an `InsertInitialLeader` or an `UpdateLeader`
that returned `true`. -/
def newLeader : LeaderEvent → Option String
  | (.insertInitialLeader u, r) | (.updateLeader u _, r) =>
    if r = .ok (.success true) then some u else none
  | _ => none

/-- **Inversion lemma.**  A call leaves the uuid and the version of the document as they
are, or it bootstraps the empty collection, or it is a takeover that won the version of the
document. -/
theorem LeaderCall.run_cases (leadershipTimeout : Int) (s : LeaderStore) (c : LeaderCall) :
    let r := c.run leadershipTimeout s
    (takeoverVersion (c, r.1) = none ∧ newLeader (c, r.1) = none ∧
      r.2.leader = s.leader ∧ r.2.version = s.version) ∨
    (∃ u, s.doc = none ∧ takeoverVersion (c, r.1) = none ∧ newLeader (c, r.1) = some u ∧
      r.2.leader = some u ∧ r.2.version = some 1) ∨
    (∃ u v, s.version = some v ∧ takeoverVersion (c, r.1) = some v ∧
      newLeader (c, r.1) = some u ∧ r.2.leader = some u ∧ r.2.version = some (toInt64 (v + 1))) := by
  cases c with
  | insertInitialLeader u =>
    cases hd : s.doc with
    | none =>
      exact .inr (.inl ⟨u, rfl, by simp [LeaderCall.run, Except.map, EdgeSync.insertInitialLeader, LeaderStore.insert,
        hd, takeoverVersion, newLeader, LeaderStore.leader, LeaderStore.version]⟩)
    | some d =>
      exact .inl (by simp [LeaderCall.run, Except.map, EdgeSync.insertInitialLeader, LeaderStore.insert, hd,
        takeoverVersion, newLeader])
  | leaderPeriodicUpdate u =>
    refine .inl ?_
    cases hd : s.doc with
    | none => simp [LeaderCall.run, Except.map, EdgeSync.leaderPeriodicUpdate, LeaderStore.update, hd, takeoverVersion,
        newLeader]
    | some d =>
      by_cases h : d.uuid = u <;> simp [LeaderCall.run, Except.map, EdgeSync.leaderPeriodicUpdate, LeaderStore.update,
        hd, h, takeoverVersion, newLeader, LeaderStore.leader, LeaderStore.version]
  | retrieveLeader =>
    refine .inl ?_
    simp [LeaderCall.run, Except.map, takeoverVersion, newLeader]
  | updateLeader u v =>
    cases hd : s.doc with
    | none => exact .inl (by simp [LeaderCall.run, Except.map, EdgeSync.updateLeader, LeaderStore.update, hd,
        takeoverVersion, newLeader])
    | some d =>
      by_cases h : d.version = v
      · exact .inr (.inr ⟨u, v, by simp [LeaderStore.version, hd, h], by simp [LeaderCall.run, Except.map,
          EdgeSync.updateLeader, LeaderStore.update, hd, h, takeoverVersion, newLeader, LeaderStore.leader,
          LeaderStore.version]⟩)
      · exact .inl (by simp [LeaderCall.run, Except.map, EdgeSync.updateLeader, LeaderStore.update, hd, h,
          takeoverVersion, newLeader])
  | resignLeadership u =>
    refine .inl ?_
    cases hd : s.doc with
    | none => simp [LeaderCall.run, Except.map, EdgeSync.resignLeadership, LeaderStore.update, hd, takeoverVersion,
        newLeader]
    | some d =>
      by_cases h : d.uuid = u <;> simp [LeaderCall.run, Except.map, EdgeSync.resignLeadership, LeaderStore.update,
        hd, h, takeoverVersion, newLeader, LeaderStore.leader, LeaderStore.version]

/-- The heartbeat of a node succeeds exactly when the document names it. -/
theorem leaderPeriodicUpdate_success (leadershipTimeout : Int) (s : LeaderStore) (u : String) :
    ((LeaderCall.leaderPeriodicUpdate u).run leadershipTimeout s).1 = .ok (.success true) ↔
      s.leader = some u := by
  cases hd : s.doc with
  | none => simp [LeaderCall.run, Except.map, EdgeSync.leaderPeriodicUpdate, LeaderStore.update,
      LeaderStore.leader, hd]
  | some d =>
    by_cases h : d.uuid = u <;> simp [LeaderCall.run, Except.map, EdgeSync.leaderPeriodicUpdate,
      LeaderStore.update, LeaderStore.leader, hd, h]

/-! ### The invariant of the history -/

/-- What the history of a run says of the collection: the document names the last node that
became the leader, the versions won by takeovers are distinct and all below its version, which
is positive, and there is no takeover before the bootstrap. -/
structure LeaderInv (hist : List LeaderEvent) (s : LeaderStore) : Prop where
  holder : s.leader = (hist.filterMap newLeader).getLast?
  nodup : (hist.filterMap takeoverVersion).Nodup
  below : ∀ v ∈ hist.filterMap takeoverVersion, ∀ n ∈ s.version, v < n
  positive : ∀ n ∈ s.version, 1 ≤ n
  empty : s.version = none → hist.filterMap takeoverVersion = []

theorem leaderInv_empty : LeaderInv [] LeaderStore.empty :=
  ⟨rfl, List.nodup_nil, by simp, by simp [LeaderStore.empty, LeaderStore.version], fun _ => rfl⟩

section Step

variable (leadershipTimeout : Int) {hist : List LeaderEvent} {s : LeaderStore}

/-- **Step lemma.** -/
theorem LeaderInv.step (h : LeaderInv hist s) (c : LeaderCall)
    (hv : ∀ n ∈ s.version, n < 2 ^ 63 - 1) :
    LeaderInv (hist ++ [(c, (c.run leadershipTimeout s).1)]) (c.run leadershipTimeout s).2 := by
  rcases LeaderCall.run_cases leadershipTimeout s c with
    ⟨ht, hn, hl, hver⟩ | ⟨u, hd, ht, hn, hl, hver⟩ | ⟨u, v, hsv, ht, hn, hl, hver⟩
  · -- the uuid and the version stay
    refine ⟨?_, ?_, ?_, ?_, ?_⟩ <;> simp only [List.filterMap_append, List.filterMap_cons,
      List.filterMap_nil, ht, hn, List.append_nil, hl, hver]
    exacts [h.holder, h.nodup, h.below, h.positive, h.empty]
  · -- the bootstrap of the empty collection
    have h₀ : hist.filterMap takeoverVersion = [] := h.empty (by simp [LeaderStore.version, hd])
    refine ⟨?_, ?_, ?_, ?_, ?_⟩ <;> simp [List.filterMap_append, ht, hn, hl, hver, h₀]
  · -- a takeover of the version `v`
    have hpos : 1 ≤ v := h.positive v hsv
    have hv' : toInt64 (v + 1) = v + 1 :=
      toInt64_of_lt (by omega) (by have := hv v hsv; omega)
    have hlt : ∀ w ∈ hist.filterMap takeoverVersion, w < v := fun w hw => h.below w hw v hsv
    refine ⟨?_, ?_, ?_, ?_, ?_⟩ <;>
      simp only [List.filterMap_append, List.filterMap_cons, List.filterMap_nil, ht, hn, hl, hver, hv']
    · simp
    · exact List.Nodup.append h.nodup (List.nodup_singleton v)
        (List.disjoint_singleton.mpr fun hm => lt_irrefl v (hlt v hm))
    · intro w hw n hn'
      cases hn'
      rcases List.mem_append.mp hw with hw | hw
      · have := hlt w hw; omega
      · simp only [List.mem_singleton] at hw; omega
    · intro n hn'; cases hn'; omega
    · intro hnone; cases hnone

/-- **Run lemma.** -/
theorem LeaderInv.run (h : LeaderInv hist s) (calls : List LeaderCall)
    (hv : ∀ k ≤ calls.length, ∀ n ∈ (leaderRun leadershipTimeout s (calls.take k)).2.version,
      n < 2 ^ 63 - 1) :
    LeaderInv (hist ++ calls.zip (leaderRun leadershipTimeout s calls).1)
      (leaderRun leadershipTimeout s calls).2 := by
  induction calls generalizing hist s with
  | nil => simpa [leaderRun] using h
  | cons c cs ih =>
    have h' := h.step leadershipTimeout c (by simpa [leaderRun] using hv 0 (Nat.zero_le _))
    simpa [leaderRun] using ih h' fun k hk => by
      simpa [leaderRun] using hv (k + 1) (by simp only [List.length_cons]; omega)

end Step

theorem leader_takeover_exclusive (leadershipTimeout : Int) (calls : List LeaderCall)
    (hv : ∀ k ≤ calls.length, ∀ n ∈ (leaderRun leadershipTimeout LeaderStore.empty (calls.take k)).2.version,
      n < 2 ^ 63 - 1) :
    let run := leaderRun leadershipTimeout LeaderStore.empty calls
    let hist := calls.zip run.1
    (hist.filterMap takeoverVersion).Nodup ∧
    run.2.leader = (hist.filterMap newLeader).getLast? ∧
    ∀ c : LeaderCall,
      let r := c.run leadershipTimeout run.2
      (run.2.doc.isSome → r.2.doc.isSome) ∧
      (∀ n ∈ run.2.version, r.2.version = some (if (takeoverVersion (c, r.1)).isSome then n + 1 else n)) ∧
      (∀ u, c = .leaderPeriodicUpdate u →
        (r.1 = .ok (.success true) ↔ (hist.filterMap newLeader).getLast? = some u)) := by
  intro run hist
  have hinv : LeaderInv hist run.2 := by simpa using leaderInv_empty.run leadershipTimeout calls hv
  refine ⟨hinv.nodup, hinv.holder, fun c => ⟨?_, fun n hn => ?_, fun u hu => ?_⟩⟩
  · rw [LeaderStore.isSome_doc, LeaderStore.isSome_doc]
    rcases LeaderCall.run_cases leadershipTimeout run.2 c with
      ⟨-, -, -, hver⟩ | ⟨_, -, -, -, -, hver⟩ | ⟨_, _, -, -, -, -, hver⟩ <;> simp [hver]
  · rcases LeaderCall.run_cases leadershipTimeout run.2 c with
      ⟨ht, -, -, hver⟩ | ⟨_, hd, -⟩ | ⟨_, v, hsv, ht, -, -, hver⟩
    · simpa [ht, hver] using hn
    · simp [LeaderStore.version, hd] at hn
    · obtain rfl : n = v := Option.some_injective _ ((Option.mem_def.mp hn).symm.trans hsv)
      have := hv calls.length le_rfl n (by simpa using hsv)
      have := hinv.positive n hsv
      have hwrap : toInt64 (n + 1) = n + 1 := toInt64_of_lt (by omega) (by omega)
      simp [ht, hver, hwrap]
  · subst hu
    rw [leaderPeriodicUpdate_success, hinv.holder]

/-- Spec scenario 5: `A` bootstraps, `B` fails to, observes version `1` and takes over, and
`A`'s heartbeat fails. -/
theorem leader_takeover_scenario :
    let calls := [LeaderCall.insertInitialLeader "A", .insertInitialLeader "B", .retrieveLeader,
      .updateLeader "B" 1]
    let run := leaderRun 30 LeaderStore.empty calls
    run.1 = [.ok (.success true), .ok (.success false), .ok (.leader "A" 30 1 1), .ok (.success true)] ∧
      ((calls.zip run.1).filterMap takeoverVersion).Nodup ∧
      run.2.leader = ((calls.zip run.1).filterMap newLeader).getLast? ∧
      ((LeaderCall.leaderPeriodicUpdate "A").run 30 run.2).1 = .ok (.success false) :=
  have h := leader_takeover_exclusive 30
    [.insertInitialLeader "A", .insertInitialLeader "B", .retrieveLeader, .updateLeader "B" 1]
    (by decide)
  ⟨by decide, h.1, h.2.1, by decide⟩

end EdgeSync
