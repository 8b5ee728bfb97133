import EdgeSync.Storage.Objects

/-!
# Webhooks: `AddWebhook`, `DeleteWebhook` and `RetrieveWebhooks`

The webhooks of an object type are the list `hooks` of one document of the `webhooks`
collection, keyed `orgID:objectType`.  `AddWebhook` and `DeleteWebhook` are read-modify-write
calls: fetch the document, compute the new list, and write it with an update conditional on
the `last-update` fetched, retried when it has changed; `AddWebhook` inserts the document when
there is none, and retries when a concurrent insert took the key.

`AddWebhook(u)` compares exactly, and leaves the list alone when `u` is on it.
`DeleteWebhook(u)` compares up to case, and removes only the first match, by moving the last
entry into its place (`removeHook`): after `AddWebhook` of `http://A` and of `http://a`,
`DeleteWebhook(http://a)` leaves `[http://a]` (`deleteWebhook_keeps_other_case`).

The comparison `strings.EqualFold` of `DeleteWebhook` folds Unicode case (the Kelvin sign
matches `k`).  The functions of this module take it as a parameter `eqFold`, and every theorem
holds for any comparison; the runs of store operations (`StoreOp`) use the ASCII fold
`equalFold`, which agrees with `strings.EqualFold` on ASCII text.

Over every interleaving of the backend calls of any number of calls, the calls are
linearizable (`webhooks_linearizable`): the ghost log of the calls that returned successfully,
each logged at the backend call where it took effect, holds each such call once, and the
list stored under every key is the log's calls for that key applied in order, as `apply`
says; no list holds a URL twice.  The invariant behind it (`HookInv`) is that a call about to
make its conditional update fetched the document that is still stored when the token it
fetched is still stored: every write stamps the document with a fresh timestamp.
-/

namespace EdgeSync

namespace MongoStorage

/-! ### The `webhooks` collection -/

/-- The `_id` of the webhooks of an object type, `orgID:objectType`. -/
def webhookID (orgID objectType : String) : String := orgID ++ ":" ++ objectType

/-- Modelled from the spec: `fetchOne` on `webhooks` by `_id`. -/
def fetchWebhook (s : MongoStorage) (id : String) : Except MgoError WebhookObject :=
  match s.webhooks id with
  | some w => .ok w
  | none => .error .notFound

/-- The store after a write of the hooks `hooks` to the document `id`, stamped with a fresh
`last-update`. -/
def writeHooks (s : MongoStorage) (id : String) (hooks : List String) : MongoStorage :=
  { s with webhooks := Function.update s.webhooks id (some ⟨hooks, s.clock + 1⟩),
           clock := s.clock + 1 }

/-- Modelled from the spec: `insert` on `webhooks`, a duplicate key when the `_id` is taken.
As on `upsert`, a `last-update` of zero is stamped. -/
def insertWebhook (s : MongoStorage) (id : String) (doc : WebhookObject) :
    Except MgoError MongoStorage :=
  match s.webhooks id with
  | some _ => .error .dup
  | none =>
    .ok { s with webhooks := Function.update s.webhooks id
                   (some (if doc.lastUpdate = 0 then { doc with lastUpdate := s.clock + 1 } else doc)),
                 clock := s.clock + 1 }

/-- Modelled from the spec: the update `AddWebhook` and `DeleteWebhook` make: on the document
`id` whose `last-update` is `lastUpdate`, `$set` of the hooks and `$currentDate` of
`last-update`; `NotFound` when there is no such document. -/
def updateWebhook (s : MongoStorage) (id : String) (lastUpdate : Nat) (hooks : List String) :
    Except MgoError MongoStorage :=
  match s.webhooks id with
  | some w => if w.lastUpdate = lastUpdate then .ok (s.writeHooks id hooks) else .error .notFound
  | none => .error .notFound

/-! ### The calls

`eqFold` is the comparison of `DeleteWebhook`, `strings.EqualFold`.
-/

variable (eqFold : String → String → Bool)

/-- The loop of `DeleteWebhook` over the hooks: the first hook equal to `url` up to case is
overwritten by the last hook, and the last is cut off; `none` when no hook matches. -/
def removeHook (url : String) (hooks : List String) : Option (List String) :=
  (hooks.findIdx? fun hook => eqFold hook url).map fun i =>
    (hooks.set i (hooks.getLastD "")).dropLast

/-- The attempts of `AddWebhook` on the document `id`.  `lastUpdate` is the `last-update` of
the document the previous attempt fetched, which the source keeps in `result`, and so
inserts. -/
def addWebhookLoop (id url : String) :
    Nat → Nat → MongoStorage → Except SyncServiceError Unit × MongoStorage
  | 0, _, s => (.error (.error "Failed to add a webhook."), s)
  | n + 1, lastUpdate, s =>
    match s.fetchWebhook id with
    | .error .notFound =>
      match s.insertWebhook id ⟨[url], lastUpdate⟩ with
      | .ok s => (.ok (), s)
      | .error .dup => addWebhookLoop id url n lastUpdate s
      | .error e => (.error (.error s!"Failed to insert a webhook. Error: {e.text}."), s)
    | .error e => (.error (.error s!"Failed to add a webhook. Error: {e.text}."), s)
    | .ok result =>
      if url ∈ result.hooks then (.ok (), s)
      else
        match s.updateWebhook id result.lastUpdate (result.hooks ++ [url]) with
        | .ok s => (.ok (), s)
        | .error .notFound => addWebhookLoop id url n result.lastUpdate s
        | .error e => (.error (.error s!"Failed to add a webhook. Error: {e.text}."), s)

/-- `AddWebhook`. -/
def addWebhook (s : MongoStorage) (orgID objectType url : String) :
    Except SyncServiceError Unit × MongoStorage :=
  addWebhookLoop (webhookID orgID objectType) url maxUpdateTries 0 s

/-- The attempts of `DeleteWebhook` on the document `id`. -/
def deleteWebhookLoop (id url : String) :
    Nat → MongoStorage → Except SyncServiceError Unit × MongoStorage
  | 0, s => (.error (.error "Failed to delete a webhook."), s)
  | n + 1, s =>
    match s.fetchWebhook id with
    | .error e => (.error (.error s!"Failed to delete a webhook. Error: {e.text}."), s)
    | .ok result =>
      match removeHook eqFold url result.hooks with
      | none => (.ok (), s)
      | some hooks =>
        match s.updateWebhook id result.lastUpdate hooks with
        | .ok s => (.ok (), s)
        | .error .notFound => deleteWebhookLoop id url n s
        | .error e => (.error (.error s!"Failed to delete a webhook. Error: {e.text}."), s)

/-- `DeleteWebhook`. -/
def deleteWebhook (s : MongoStorage) (orgID objectType url : String) :
    Except SyncServiceError Unit × MongoStorage :=
  deleteWebhookLoop eqFold (webhookID orgID objectType) url maxUpdateTries s

/-- The attempts of `AddWebhook` write only the `webhooks` collection and the clock. -/
theorem addWebhookLoop_only (id url : String) :
    ∀ n lastUpdate (s : MongoStorage), ∃ w c, s.clock ≤ c ∧
      (addWebhookLoop id url n lastUpdate s).2 = { s with webhooks := w, clock := c }
  | 0, _, s => ⟨s.webhooks, s.clock, le_rfl, rfl⟩
  | n + 1, lastUpdate, s => by
    unfold addWebhookLoop
    split
    · unfold insertWebhook
      split
      · rename_i hi
        split at hi
        · cases hi
        · cases hi; exact ⟨_, _, Nat.le_succ _, rfl⟩
      · exact addWebhookLoop_only id url n lastUpdate s
      · exact ⟨s.webhooks, s.clock, le_rfl, rfl⟩
    · exact ⟨s.webhooks, s.clock, le_rfl, rfl⟩
    · split
      · exact ⟨s.webhooks, s.clock, le_rfl, rfl⟩
      · unfold updateWebhook
        split
        · rename_i hu
          split at hu
          · split at hu
            · cases hu; exact ⟨_, _, Nat.le_succ _, rfl⟩
            · cases hu
          · cases hu
        · exact addWebhookLoop_only id url n _ s
        · exact ⟨s.webhooks, s.clock, le_rfl, rfl⟩

/-- The attempts of `DeleteWebhook` write only the `webhooks` collection and the clock. -/
theorem deleteWebhookLoop_only (id url : String) :
    ∀ n (s : MongoStorage), ∃ w c, s.clock ≤ c ∧
      (deleteWebhookLoop eqFold id url n s).2 = { s with webhooks := w, clock := c }
  | 0, s => ⟨s.webhooks, s.clock, le_rfl, rfl⟩
  | n + 1, s => by
    unfold deleteWebhookLoop
    split
    · exact ⟨s.webhooks, s.clock, le_rfl, rfl⟩
    · split
      · exact ⟨s.webhooks, s.clock, le_rfl, rfl⟩
      · unfold updateWebhook
        split
        · rename_i hu
          split at hu
          · split at hu
            · cases hu; exact ⟨_, _, Nat.le_succ _, rfl⟩
            · cases hu
          · cases hu
        · exact deleteWebhookLoop_only id url n s
        · exact ⟨s.webhooks, s.clock, le_rfl, rfl⟩

/-- `RetrieveWebhooks`: the error of the fetch is returned as it is. -/
def retrieveWebhooks (s : MongoStorage) (orgID objectType : String) :
    Except SyncServiceError (List String) :=
  match s.fetchWebhook (webhookID orgID objectType) with
  | .error e => .error (.error e.text)
  | .ok result => if result.hooks = [] then .error (.notFound "No webhooks") else .ok result.hooks

/-- Two hooks that differ in case are added, and the second deleted. -/
theorem deleteWebhook_keeps_other_case :
    let s₁ : MongoStorage := (MongoStorage.empty.addWebhook "org" "type" "http://A").2
    let s₂ := (s₁.addWebhook "org" "type" "http://a").2
    s₂.retrieveWebhooks "org" "type" = .ok ["http://A", "http://a"] ∧
      (s₂.deleteWebhook equalFold "org" "type" "http://a").1 = .ok () ∧
      (s₂.deleteWebhook equalFold "org" "type" "http://a").2.retrieveWebhooks "org" "type" =
        .ok ["http://a"] := by
  decide

/-! ### What a call does to the list -/

/-- A webhook call. -/
inductive HookCall
  | addWebhook (orgID objectType url : String)
  | deleteWebhook (orgID objectType url : String)
deriving DecidableEq, Repr

/-- The document a call reads and writes. -/
def HookCall.id : HookCall → String
  | .addWebhook orgID objectType _ => webhookID orgID objectType
  | .deleteWebhook orgID objectType _ => webhookID orgID objectType

/-- The list a call writes over the list it fetched; `none` when it returns without a
write. -/
def HookCall.change : HookCall → List String → Option (List String)
  | .addWebhook _ _ url, hooks => if url ∈ hooks then none else some (hooks ++ [url])
  | .deleteWebhook _ _ url, hooks => removeHook eqFold url hooks

/-- What a call does to the list, whether it writes or not. -/
def HookCall.apply (c : HookCall) (hooks : List String) : List String :=
  (c.change eqFold hooks).getD hooks

theorem removeHook_nodup {url : String} {hooks hooks' : List String} (hn : hooks.Nodup)
    (h : removeHook eqFold url hooks = some hooks') : hooks'.Nodup := by
  obtain ⟨i, hi, rfl⟩ := Option.map_eq_some'.mp h
  have hlt : i < hooks.length := (List.findIdx?_eq_some_iff_findIdx_eq.mp hi).1
  rcases List.eq_nil_or_concat hooks with rfl | ⟨l, z, rfl⟩
  · simp at hlt
  rw [List.concat_eq_append] at hn hlt ⊢
  obtain ⟨hl, -, hdis⟩ := List.nodup_append.mp hn
  rw [List.getLastD_concat]
  by_cases hil : i < l.length
  · rw [List.set_append_left _ _ hil, List.dropLast_concat]
    exact hl.set fun hz => hdis hz (List.mem_singleton_self z)
  · have hi' : i = l.length := by simp only [List.length_append, List.length_singleton] at hlt; omega
    subst hi'
    simpa [List.set_append_right] using hl

theorem HookCall.apply_nodup (c : HookCall) {hooks : List String} (hn : hooks.Nodup) :
    (c.apply eqFold hooks).Nodup := by
  unfold apply
  rcases hc : c.change eqFold hooks with _ | hooks'
  · exact hn
  cases c with
  | addWebhook _ _ url =>
    simp only [change] at hc
    split_ifs at hc with hu
    cases hc
    exact hn.append (List.nodup_singleton url) fun a ha hb => hu (List.mem_singleton.mp hb ▸ ha)
  | deleteWebhook _ _ url => exact removeHook_nodup eqFold hn hc

/-- The hooks stored under `id`, none when there is no document. -/
def hooksOf (s : MongoStorage) (id : String) : List String :=
  ((s.webhooks id).map WebhookObject.hooks).getD []

/-- The list the calls of a log make of the document `id`, one after the other from none. -/
def linearize (log : List HookCall) (id : String) : List String :=
  (log.filter fun c => c.id == id).foldl (fun hooks c => c.apply eqFold hooks) []

theorem linearize_concat (log : List HookCall) (c : HookCall) (id : String) :
    linearize eqFold (log ++ [c]) id =
      if id = c.id then c.apply eqFold (linearize eqFold log id) else linearize eqFold log id := by
  by_cases h : id = c.id
  · subst h; simp [linearize, List.filter_append]
  · simp [linearize, List.filter_append, Ne.symm h, h]

theorem linearize_nodup (log : List HookCall) (id : String) : (linearize eqFold log id).Nodup := by
  unfold linearize
  generalize log.filter (fun c => c.id == id) = cs
  suffices ∀ hooks : List String, hooks.Nodup →
      (cs.foldl (fun hooks c => c.apply eqFold hooks) hooks).Nodup from this [] List.nodup_nil
  induction cs with
  | nil => exact fun _ h => h
  | cons c cs ih => exact fun hooks h => ih _ (c.apply_nodup eqFold h)

/-! ### Concurrent calls -/

/-- The program counter of a call: the fetch of an attempt, with the attempts left and the
`last-update` of the last document fetched; the insert of `AddWebhook`; the conditional
update, with the document fetched and the list to write; or the call's return. -/
inductive HookPc
  | fetch (tries lastUpdate : Nat)
  | insert (tries lastUpdate : Nat) (url : String)
  | commit (tries : Nat) (result : WebhookObject) (hooks : List String)
  | done (result : Except SyncServiceError Unit)
deriving DecidableEq, Repr

/-- The error a call returns when its attempts run out. -/
def HookCall.exhausted : HookCall → String
  | .addWebhook .. => "Failed to add a webhook."
  | .deleteWebhook .. => "Failed to delete a webhook."

/-- The error a call returns when a backend call fails with `e`. -/
def HookCall.failure (c : HookCall) (e : MgoError) : String :=
  match c with
  | .addWebhook .. => s!"Failed to add a webhook. Error: {e.text}."
  | .deleteWebhook .. => s!"Failed to delete a webhook. Error: {e.text}."

/-- One step of a call: one backend call.  Returns the new program counter, the store, and
the call itself when it returns successfully at this step. -/
def HookCall.step (c : HookCall) (s : MongoStorage) : HookPc → HookPc × MongoStorage × List HookCall
  | .fetch 0 _ => (.done (.error (.error c.exhausted)), s, [])
  | .fetch (n + 1) lastUpdate =>
    match s.fetchWebhook c.id with
    | .ok result =>
      match c.change eqFold result.hooks with
      | none => (.done (.ok ()), s, [c])
      | some hooks => (.commit n result hooks, s, [])
    | .error e =>
      match c, e with
      | .addWebhook _ _ url, .notFound => (.insert n lastUpdate url, s, [])
      | _, _ => (.done (.error (.error (c.failure e))), s, [])
  | .insert n lastUpdate url =>
    match s.insertWebhook c.id ⟨[url], lastUpdate⟩ with
    | .ok s' => (.done (.ok ()), s', [c])
    | .error .dup => (.fetch n lastUpdate, s, [])
    | .error e => (.done (.error (.error s!"Failed to insert a webhook. Error: {e.text}.")), s, [])
  | .commit n result hooks =>
    match s.updateWebhook c.id result.lastUpdate hooks with
    | .ok s' => (.done (.ok ()), s', [c])
    | .error .notFound => (.fetch n result.lastUpdate, s, [])
    | .error e => (.done (.error (.error (c.failure e))), s, [])
  | .done r => (.done r, s, [])

/-- The store, the calls in flight, and the ghost log of the calls that returned
successfully, in the order they took effect. -/
structure HookSys where
  store : MongoStorage
  procs : List (HookCall × HookPc)
  hist : List HookCall

/-- The calls `calls` about to start, on the empty store. -/
def HookSys.start (calls : List HookCall) : HookSys :=
  ⟨MongoStorage.empty, calls.map fun c => (c, .fetch maxUpdateTries 0), []⟩

/-- A step of the call in flight at index `i`. -/
def HookSys.step (sys : HookSys) (i : Nat) : HookSys :=
  match sys.procs[i]? with
  | some (c, pc) =>
    let r := c.step eqFold sys.store pc
    ⟨r.2.1, sys.procs.set i (c, r.1), sys.hist ++ r.2.2⟩
  | none => sys

/-- The steps `steps`, by the index of the call that makes each. -/
def HookSys.run (sys : HookSys) (steps : List Nat) : HookSys := steps.foldl (HookSys.step eqFold) sys

/-- The call, if it has returned successfully. -/
def succeededCall : HookCall × HookPc → Option HookCall
  | (c, .done (.ok ())) => some c
  | _ => none

/-- The function of the source a call runs. -/
def HookCall.loop : HookCall → Nat → Nat → MongoStorage → Except SyncServiceError Unit × MongoStorage
  | .addWebhook orgID objectType url, n, lastUpdate, s =>
    addWebhookLoop (webhookID orgID objectType) url n lastUpdate s
  | .deleteWebhook orgID objectType url, n, _, s =>
    deleteWebhookLoop eqFold (webhookID orgID objectType) url n s

/-- A call that runs with no other step between its own returns what the function of the
source returns, and leaves the store it leaves.  Alone, it never retries: it returns within two
steps, a fetch and an insert or an update. -/
theorem hookCall_run_alone (c : HookCall) (n lastUpdate : Nat) (s : MongoStorage) (h : List HookCall) :
    ∃ k ≤ 2, (HookSys.run eqFold ⟨s, [(c, .fetch n lastUpdate)], h⟩ (List.replicate k 0)).store =
        (c.loop eqFold n lastUpdate s).2 ∧
      (HookSys.run eqFold ⟨s, [(c, .fetch n lastUpdate)], h⟩ (List.replicate k 0)).procs =
        [(c, .done (c.loop eqFold n lastUpdate s).1)] := by
  cases n with
  | zero => cases c <;> exact ⟨1, by omega, rfl, rfl⟩
  | succ n =>
    rcases hw : s.webhooks c.id with _ | w
    · cases c with
      | addWebhook orgID objectType url =>
        refine ⟨2, le_rfl, ?_⟩
        simp only [HookCall.id] at hw
        simp [HookSys.run, HookSys.step, HookCall.step, HookCall.loop, HookCall.id, addWebhookLoop,
          fetchWebhook, insertWebhook, hw]
      | deleteWebhook orgID objectType url =>
        refine ⟨1, by omega, ?_⟩
        simp only [HookCall.id] at hw
        simp [HookSys.run, HookSys.step, HookCall.step, HookCall.loop, HookCall.id, deleteWebhookLoop,
          fetchWebhook, hw, HookCall.failure]
    · rcases hch : c.change eqFold w.hooks with _ | hooks
      · refine ⟨1, by omega, ?_⟩
        cases c <;> simp only [HookCall.id, HookCall.change] at hw hch
        · split_ifs at hch with hu
          simp [HookSys.run, HookSys.step, HookCall.step, HookCall.loop, HookCall.id, HookCall.change,
            addWebhookLoop, fetchWebhook, hw, hu]
        · simp [HookSys.run, HookSys.step, HookCall.step, HookCall.loop, HookCall.id, HookCall.change,
            deleteWebhookLoop, fetchWebhook, hw, hch]
      · refine ⟨2, le_rfl, ?_⟩
        cases c <;> simp only [HookCall.id, HookCall.change] at hw hch
        · split_ifs at hch with hu
          cases hch
          simp [HookSys.run, HookSys.step, HookCall.step, HookCall.loop, HookCall.id, HookCall.change,
            addWebhookLoop, fetchWebhook, updateWebhook, hw, hu]
        · simp [HookSys.run, HookSys.step, HookCall.step, HookCall.loop, HookCall.id, HookCall.change,
            deleteWebhookLoop, fetchWebhook, updateWebhook, hw, hch]

/-! ### The invariant -/

variable {eqFold}

/-- Every webhook document is stamped no later than the clock. -/
def Stamped (s : MongoStorage) : Prop :=
  ∀ id w, s.webhooks id = some w → w.lastUpdate ≤ s.clock

variable (eqFold) in
/-- What a call in flight knows of the store: a call about to insert carries no token of a
document that is gone; one about to update fetched the document stored under its key, when
the token it fetched is still there. -/
def Fresh (s : MongoStorage) (c : HookCall) : HookPc → Prop
  | .fetch _ lastUpdate => lastUpdate ≠ 0 → (s.webhooks c.id).isSome
  | .insert _ lastUpdate url =>
    (lastUpdate ≠ 0 → (s.webhooks c.id).isSome) ∧ c.change eqFold [] = some [url]
  | .commit _ result hooks => result.lastUpdate ≤ s.clock ∧ (s.webhooks c.id).isSome ∧
      c.change eqFold result.hooks = some hooks ∧
      ∀ w, s.webhooks c.id = some w → w.lastUpdate = result.lastUpdate → w.hooks = result.hooks
  | .done _ => True

/-- The store `s'` follows `s`: the clock does not go back, no document goes away, and every
document of `s'` is one of `s` or is stamped after the clock of `s`. -/
structure HookSucc (s s' : MongoStorage) : Prop where
  clock_le : s.clock ≤ s'.clock
  isSome : ∀ id, (s.webhooks id).isSome → (s'.webhooks id).isSome
  fresh : ∀ id w, s'.webhooks id = some w → s.webhooks id = some w ∨ s.clock < w.lastUpdate

theorem HookSucc.refl (s : MongoStorage) : HookSucc s s :=
  ⟨le_rfl, fun _ h => h, fun _ _ h => .inl h⟩

theorem Fresh.mono {s s' : MongoStorage} {c : HookCall} {pc : HookPc} (hs : HookSucc s s')
    (h : Fresh eqFold s c pc) : Fresh eqFold s' c pc := by
  cases pc with
  | fetch => exact fun h0 => hs.isSome _ (h h0)
  | insert => exact ⟨fun h0 => hs.isSome _ (h.1 h0), h.2⟩
  | commit _ result hooks =>
    obtain ⟨hle, hsome, hch, hcur⟩ := h
    refine ⟨hle.trans hs.clock_le, hs.isSome _ hsome, hch, fun w hw ht => ?_⟩
    rcases hs.fresh _ _ hw with hw | hlt
    · exact hcur w hw ht
    · omega
  | done => trivial

theorem writeHooks_webhooks (s : MongoStorage) (id : String) (hooks : List String) (id' : String) :
    (s.writeHooks id hooks).webhooks id' = if id' = id then some ⟨hooks, s.clock + 1⟩ else s.webhooks id' := by
  simp only [writeHooks, Function.update_apply]

theorem writeHooks_succ (s : MongoStorage) (id : String) (hooks : List String) :
    HookSucc s (s.writeHooks id hooks) where
  clock_le := Nat.le_succ _
  isSome id' h := by rw [writeHooks_webhooks]; split <;> simp_all
  fresh id' w h := by
    rw [writeHooks_webhooks] at h
    split at h
    · cases h; exact .inr (Nat.lt_succ_self _)
    · exact .inl h

theorem writeHooks_stamped {s : MongoStorage} (hs : Stamped s) (id : String) (hooks : List String) :
    Stamped (s.writeHooks id hooks) := by
  intro id' w h
  rw [writeHooks_webhooks] at h
  split at h
  · cases h; exact le_rfl
  · exact (hs id' w h).trans (Nat.le_succ _)

theorem hooksOf_writeHooks (s : MongoStorage) (id : String) (hooks : List String) (id' : String) :
    hooksOf (s.writeHooks id hooks) id' = if id' = id then hooks else hooksOf s id' := by
  simp only [hooksOf, writeHooks_webhooks]
  split <;> rfl

variable (eqFold) in
/-- A step of a call either leaves the store and the log as they are, or returns
successfully, logs the call, and changes the list of the call's document as `apply` says. -/
structure StepOk (s : MongoStorage) (c : HookCall) (pc : HookPc)
    (r : HookPc × MongoStorage × List HookCall) : Prop where
  fresh : Fresh eqFold r.2.1 c r.1
  stamped : Stamped r.2.1
  succ : HookSucc s r.2.1
  effect : (r.2.1 = s ∧ r.2.2 = [] ∧ succeededCall (c, r.1) = succeededCall (c, pc)) ∨
    (r.2.2 = [c] ∧ succeededCall (c, pc) = none ∧ succeededCall (c, r.1) = some c ∧
      ∀ id, hooksOf r.2.1 id = if id = c.id then c.apply eqFold (hooksOf s id) else hooksOf s id)

theorem stepOk_unchanged {s : MongoStorage} {c : HookCall} {pc pc' : HookPc} (hs : Stamped s)
    (hf : Fresh eqFold s c pc') (he : succeededCall (c, pc') = succeededCall (c, pc)) :
    StepOk eqFold s c pc (pc', s, []) :=
  ⟨hf, hs, HookSucc.refl s, .inl ⟨rfl, rfl, he⟩⟩

theorem stepOk_write {s : MongoStorage} {c : HookCall} {pc : HookPc} {hooks : List String}
    (hs : Stamped s) (hpc : succeededCall (c, pc) = none)
    (happly : c.apply eqFold (hooksOf s c.id) = hooks) :
    StepOk eqFold s c pc (.done (.ok ()), s.writeHooks c.id hooks, [c]) :=
  ⟨trivial, writeHooks_stamped hs _ _, writeHooks_succ _ _ _,
    .inr ⟨rfl, hpc, rfl, fun id => by rw [hooksOf_writeHooks]; split <;> simp_all⟩⟩

/-- **Step lemma.** -/
theorem HookCall.step_ok {s : MongoStorage} {c : HookCall} {pc : HookPc} (hf : Fresh eqFold s c pc)
    (hs : Stamped s) : StepOk eqFold s c pc (c.step eqFold s pc) := by
  cases pc with
  | fetch n lastUpdate =>
    cases n with
    | zero => exact stepOk_unchanged hs trivial rfl
    | succ n =>
      rcases hw : s.webhooks c.id with _ | w
      · cases c <;> simp only [HookCall.step, fetchWebhook, hw]
        · exact stepOk_unchanged hs ⟨hf, by simp [HookCall.change]⟩ rfl
        · exact stepOk_unchanged hs trivial rfl
      · rcases hch : c.change eqFold w.hooks with _ | hooks <;>
          simp only [HookCall.step, fetchWebhook, hw, hch]
        · refine ⟨trivial, hs, HookSucc.refl s, .inr ⟨rfl, rfl, rfl, fun id => ?_⟩⟩
          split
          · subst id; simp [hooksOf, hw, HookCall.apply, hch]
          · rfl
        · exact stepOk_unchanged hs ⟨hs _ _ hw, by simp [hw], hch,
            fun w' hw' _ => by rw [hw] at hw'; cases hw'; rfl⟩ rfl
  | insert n lastUpdate url =>
    obtain ⟨hsome, hch⟩ := hf
    rcases hw : s.webhooks c.id with _ | w
    · have h0 : lastUpdate = 0 := by by_contra h0; simpa [hw] using hsome h0
      have hins : s.insertWebhook c.id ⟨[url], lastUpdate⟩ = .ok (s.writeHooks c.id [url]) := by
        simp [insertWebhook, writeHooks, hw, h0]
      simp only [HookCall.step, hins]
      exact stepOk_write hs rfl (by simp [hooksOf, hw, HookCall.apply, hch])
    · simp only [HookCall.step, insertWebhook, hw]
      exact stepOk_unchanged hs (fun _ => by simp [hw]) rfl
  | commit n result hooks =>
    obtain ⟨hle, hsome, hch, hcur⟩ := hf
    rcases hw : s.webhooks c.id with _ | w
    · simp [hw] at hsome
    · by_cases ht : w.lastUpdate = result.lastUpdate
      · simp only [HookCall.step, updateWebhook, hw, if_pos ht]
        exact stepOk_write hs rfl (by simp [hooksOf, hw, hcur w hw ht, HookCall.apply, hch])
      · simp only [HookCall.step, updateWebhook, hw, if_neg ht]
        exact stepOk_unchanged hs (fun _ => by simp [hw]) rfl
  | done r => exact stepOk_unchanged hs trivial rfl

section FilterMap

variable {α β : Type} (f : α → Option β)

theorem filterMap_set_of_eq : ∀ (l : List α) (i : Nat) {a b : α}, l[i]? = some a → f b = f a →
    (l.set i b).filterMap f = l.filterMap f
  | [], _, _, _, h, _ => by simp at h
  | x :: l, 0, _, _, h, hf => by
    simp only [List.getElem?_cons_zero, Option.some.injEq] at h
    subst h
    simp only [List.set_cons_zero, List.filterMap_cons, hf]
  | x :: l, i + 1, _, _, h, hf => by
    simp only [List.getElem?_cons_succ] at h
    simp only [List.set_cons_succ, List.filterMap_cons, filterMap_set_of_eq l i h hf]

theorem filterMap_set_perm : ∀ (l : List α) (i : Nat) {a b : α} {x : β}, l[i]? = some a →
    f a = none → f b = some x → ((l.set i b).filterMap f).Perm (l.filterMap f ++ [x])
  | [], _, _, _, _, h, _, _ => by simp at h
  | y :: l, 0, _, _, _, h, ha, hb => by
    simp only [List.getElem?_cons_zero, Option.some.injEq] at h
    subst h
    simp only [List.set_cons_zero, List.filterMap_cons, ha, hb]
    exact (List.perm_append_singleton _ _).symm
  | y :: l, i + 1, _, _, _, h, ha, hb => by
    simp only [List.getElem?_cons_succ] at h
    simp only [List.set_cons_succ, List.filterMap_cons]
    cases f y with
    | none => exact filterMap_set_perm l i h ha hb
    | some z => exact (filterMap_set_perm l i h ha hb).cons z

end FilterMap

variable (eqFold) in
/-- **The invariant of the runs.** -/
structure HookInv (sys : HookSys) : Prop where
  stamped : Stamped sys.store
  fresh : ∀ p ∈ sys.procs, Fresh eqFold sys.store p.1 p.2
  linearized : ∀ id, hooksOf sys.store id = linearize eqFold sys.hist id
  succeeded : sys.hist.Perm (sys.procs.filterMap succeededCall)

theorem hookInv_start (calls : List HookCall) : HookInv eqFold (HookSys.start calls) where
  stamped _ _ h := nomatch h
  fresh p hp := by
    obtain ⟨c, -, rfl⟩ := List.mem_map.mp hp
    exact fun h => absurd rfl h
  linearized _ := rfl
  succeeded := by simp [HookSys.start, succeededCall]

theorem HookInv.step {sys : HookSys} (h : HookInv eqFold sys) (i : Nat) :
    HookInv eqFold (sys.step eqFold i) := by
  unfold HookSys.step
  rcases hp : sys.procs[i]? with _ | ⟨c, pc⟩
  · exact h
  dsimp only
  have hs : StepOk eqFold sys.store c pc (c.step eqFold sys.store pc) :=
    HookCall.step_ok (h.fresh _ (List.getElem?_mem hp)) h.stamped
  generalize c.step eqFold sys.store pc = r at hs ⊢
  obtain ⟨pc', s', log⟩ := r
  refine ⟨hs.stamped, fun p hp' => ?_, fun id => ?_, ?_⟩
  · rcases List.mem_or_eq_of_mem_set hp' with hp' | rfl
    · exact (h.fresh p hp').mono hs.succ
    · exact hs.fresh
  · rcases hs.effect with ⟨rfl, rfl, -⟩ | ⟨rfl, -, -, hh⟩
    · simpa using h.linearized id
    · rw [hh id, linearize_concat, h.linearized id]
  · rcases hs.effect with ⟨-, rfl, he⟩ | ⟨rfl, hn, hsome, -⟩
    · rw [List.append_nil, filterMap_set_of_eq _ _ _ hp he]
      exact h.succeeded
    · exact (h.succeeded.append_right [c]).trans (filterMap_set_perm _ _ _ hp hn hsome).symm

theorem HookInv.run : ∀ (steps : List Nat) {sys : HookSys}, HookInv eqFold sys →
    HookInv eqFold (sys.run eqFold steps)
  | [], _, h => h
  | i :: steps, _, h => HookInv.run steps (h.step i)

variable (eqFold) in
/-- **The webhook calls are linearizable**, for any comparison `eqFold`: over any
interleaving of their steps from the empty store, the log of the calls that returned
successfully holds each of them once, and the list under every key is the log's calls for
that key applied in order, with no URL twice. -/
theorem webhooks_linearizable (calls : List HookCall) (steps : List Nat) :
    let sys := (HookSys.start calls).run eqFold steps
    sys.hist.Perm (sys.procs.filterMap succeededCall) ∧
      ∀ id, hooksOf sys.store id = linearize eqFold sys.hist id ∧ (hooksOf sys.store id).Nodup := by
  intro sys
  have h : HookInv eqFold sys := HookInv.run steps (hookInv_start calls)
  exact ⟨h.succeeded, fun id => ⟨h.linearized id, h.linearized id ▸ linearize_nodup _ _ _⟩⟩

/-- Two callers add the same hook at once: both find no document, one inserts it, the
other's insert is a duplicate, and its retry finds the hook listed. -/
example :
    let u : HookCall := .addWebhook "org" "type" "http://u"
    let sys := (HookSys.start [u, u]).run equalFold [0, 1, 0, 1, 1]
    hooksOf sys.store "org:type" = ["http://u"] ∧ sys.hist = [u, u] := by
  decide

end MongoStorage

end EdgeSync
