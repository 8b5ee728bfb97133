import EdgeSync.Storage.Interleaving

/-!
# The destinations lists are linearizable

Over every interleaving of the read-modify-write calls on destinations lists with the other
writers of the object documents and of the `destinations` collection, starting from any store
with no objects, the destinations list of every object is the ghost log's writes to it applied
in commit order (`destinations_linearizable`): no committed write is lost, and none is applied
to a list other than the one stored when it commits.  What is linearized is the committed
write, not the call: a `RetrieveObjects` call that starts a pass over commits its append to an
object once per pass (`retrieveObjects_appends_twice`).

The argument is the one the `last-update` token is there for.  Every write of a document
stamps it with a fresh timestamp, later than every token a call can hold (`ObjSucc`), so a
conditional update matches only while the document is the one the call fetched (`Current`).
The other writers keep every destinations list (`Quiet`); `StoreObject` and the commits write
one list (`WriteTo`).
-/

namespace EdgeSync

namespace MongoStorage

/-! ### Keyed, stamped stores -/

/-- The object documents have distinct ids, each the key of its metadata, and are stamped no
later than the clock. -/
structure ObjStore (s : MongoStorage) : Prop where
  ids : (s.objects.map Object.id).Nodup
  keys : ∀ o ∈ s.objects, o.id = getObjectCollectionID o.metaData
  stamped : ∀ o ∈ s.objects, o.lastUpdate ≤ s.clock

/-- The id and destinations list of every object, in order. -/
def destView (s : MongoStorage) : List (String × List StoreDestinationStatus) :=
  s.objects.map fun o => (o.id, o.destinations)

/-- The store `s'` follows `s`: the clock does not go back, and every document of `s'` is
stamped after the clock of `s` or has the id, token and destinations of a document of
`s`. -/
structure ObjSucc (s s' : MongoStorage) : Prop where
  clock_le : s.clock ≤ s'.clock
  fresh : ∀ o' ∈ s'.objects, s.clock < o'.lastUpdate ∨
    ∃ o ∈ s.objects, o.id = o'.id ∧ o.lastUpdate = o'.lastUpdate ∧ o.destinations = o'.destinations

/-- The document `r`, fetched for the id `id`, is current: every document of that id that
still carries its token carries its destinations. -/
def Current (s : MongoStorage) (id : String) (r : Object) : Prop :=
  r.lastUpdate ≤ s.clock ∧
    ∀ o ∈ s.objects, o.id = id → o.lastUpdate = r.lastUpdate → o.destinations = r.destinations

/-- A write that keeps every destinations list. -/
structure Quiet (s s' : MongoStorage) : Prop where
  store : ObjStore s'
  succ : ObjSucc s s'
  view : destView s' = destView s

/-- A write of the destinations list `ds` to the object `id`, and to no other. -/
structure WriteTo (s s' : MongoStorage) (id : String) (ds : List StoreDestinationStatus) : Prop where
  store : ObjStore s'
  succ : ObjSucc s s'
  view : ∀ p ∈ destView s', (p.1 = id ∧ p.2 = ds) ∨ (p.1 ≠ id ∧ p ∈ destView s)

variable {s s' s'' : MongoStorage}

theorem ObjStore.empty : ObjStore MongoStorage.empty :=
  ⟨List.nodup_nil, (fun _ h => nomatch h), (fun _ h => nomatch h)⟩

theorem ObjStore.noObjects (s : MongoStorage) : ObjStore { s with objects := [] } :=
  ⟨List.nodup_nil, (fun _ h => nomatch h), (fun _ h => nomatch h)⟩

theorem ObjStore.congr (h : ObjStore s) (ho : s'.objects = s.objects) (hc : s'.clock = s.clock) :
    ObjStore s' := by
  obtain ⟨h₁, h₂, h₃⟩ := h
  exact ⟨ho ▸ h₁, ho ▸ h₂, ho ▸ hc ▸ h₃⟩

/-- A document is current for its own id when it is fetched. -/
theorem ObjStore.current (h : ObjStore s) {r : Object} (hr : r ∈ s.objects) : Current s r.id r :=
  ⟨h.stamped r hr, fun _ ho hid _ => by rw [List.inj_on_of_nodup_map h.ids ho hr hid]⟩

theorem ObjSucc.refl (s : MongoStorage) : ObjSucc s s :=
  ⟨le_rfl, fun o ho => .inr ⟨o, ho, rfl, rfl, rfl⟩⟩

theorem ObjSucc.trans (h : ObjSucc s s') (h' : ObjSucc s' s'') : ObjSucc s s'' := by
  refine ⟨h.clock_le.trans h'.clock_le, fun o'' ho'' => ?_⟩
  rcases h'.fresh o'' ho'' with hlt | ⟨o', ho', hid, ht, hd⟩
  · exact .inl (lt_of_le_of_lt h.clock_le hlt)
  · rcases h.fresh o' ho' with hlt | ⟨o, ho, hid', ht', hd'⟩
    · exact .inl (ht ▸ hlt)
    · exact .inr ⟨o, ho, hid'.trans hid, ht'.trans ht, hd'.trans hd⟩

theorem ObjSucc.congr (h : ObjSucc s s') (ho : s''.objects = s.objects) (hc : s''.clock = s.clock) :
    ObjSucc s'' s' := by
  obtain ⟨h₁, h₂⟩ := h
  exact ⟨hc ▸ h₁, ho ▸ hc ▸ h₂⟩

theorem Current.mono {id : String} {r : Object} (hs : ObjSucc s s') (h : Current s id r) :
    Current s' id r := by
  refine ⟨h.1.trans hs.clock_le, fun o' ho' hid ht => ?_⟩
  rcases hs.fresh o' ho' with hlt | ⟨o, ho, hid', ht', hd⟩
  · have := h.1; omega
  · rw [← hd]; exact h.2 o ho (hid'.trans hid) (ht'.trans ht)

theorem Quiet.refl (h : ObjStore s) : Quiet s s := ⟨h, ObjSucc.refl s, rfl⟩

theorem Quiet.trans (h : Quiet s s') (h' : Quiet s' s'') : Quiet s s'' :=
  ⟨h'.store, h.succ.trans h'.succ, h'.view.trans h.view⟩

theorem ObjSucc.of_objects (ho : s'.objects = s.objects) (hc : s'.clock = s.clock) : ObjSucc s s' :=
  ⟨hc.ge, fun o ho' => .inr ⟨o, ho ▸ ho', rfl, rfl, rfl⟩⟩

theorem Quiet.of_objects (h : ObjStore s) (ho : s'.objects = s.objects) (hc : s'.clock = s.clock) :
    Quiet s s' :=
  ⟨h.congr ho hc, ObjSucc.of_objects ho hc, by simp only [destView, ho]⟩

theorem WriteTo.congr {id : String} {ds : List StoreDestinationStatus} (h : WriteTo s' s'' id ds)
    (ho : s'.objects = s.objects) (hc : s'.clock = s.clock) : WriteTo s s'' id ds :=
  ⟨h.store, h.succ.congr ho.symm hc.symm, by simpa only [destView, ho] using h.view⟩

/-! ### Writes of one document -/

/-- **Spec lemma of `update`**, with the store it leaves. -/
theorem updateObject_eq {filter : Object → Bool} {set : Object → Object} {cd : Bool}
    (h : s.updateObject filter set cd = .ok s') :
    ∃ a x b, s.objects = a ++ x :: b ∧ s.objects.find? filter = some x ∧
      s'.objects = a ++ s.stamped set cd x :: b ∧ s'.clock = if cd then s.clock + 1 else s.clock := by
  unfold updateObject at h
  rcases hu : updateFirst filter (s.stamped set cd) s.objects with _ | objects <;> rw [hu] at h
  · cases h
  · cases h
    obtain ⟨a, x, b, hs, rfl, hx⟩ := find?_of_updateFirst hu
    exact ⟨a, x, b, hs, hx, rfl, rfl⟩

/-- A document of a keyed store is what `fetchOne` returns for its id. -/
theorem ObjStore.fetchObject (h : ObjStore s) {o : Object} (ho : o ∈ s.objects) :
    s.fetchObject o.id = .ok o := by
  unfold MongoStorage.fetchObject
  rcases hf : s.objects.find? (fun o' => o'.id == o.id) with _ | o'
  · exact absurd (List.find?_eq_none.mp hf o ho) (by simp)
  · have hid : o'.id = o.id := by simpa using List.find?_some hf
    rw [List.inj_on_of_nodup_map h.ids (List.mem_of_find?_eq_some hf) ho hid] at hf
    rw [hf]

section Rewrite

variable {a b : List Object} {x y : Object} (hs : s.objects = a ++ x :: b)
  (hs' : s'.objects = a ++ y :: b)
include hs hs'

/-- Rewriting one document in place, keeping its id and key and stamping it no later than
the new clock, keeps a store keyed and stamped. -/
theorem ObjStore.rewrite (h : ObjStore s) (hid : y.id = x.id)
    (hkey : getObjectCollectionID y.metaData = getObjectCollectionID x.metaData)
    (hclock : s.clock ≤ s'.clock) (hy : y.lastUpdate ≤ s'.clock) : ObjStore s' := by
  have hmem : ∀ o ∈ s'.objects, o = y ∨ o ∈ s.objects := by
    intro o ho
    rw [hs'] at ho
    rw [hs]
    simp only [List.mem_append, List.mem_cons] at ho ⊢
    tauto
  refine ⟨?_, fun o ho => ?_, fun o ho => ?_⟩
  · have := h.ids
    rw [hs] at this
    rw [hs']
    simpa [hid] using this
  · rcases hmem o ho with rfl | ho
    · rw [hid, hkey]; exact h.keys x (by rw [hs]; simp)
    · exact h.keys o ho
  · rcases hmem o ho with rfl | ho
    · exact hy
    · exact (h.stamped o ho).trans hclock

theorem ObjSucc.rewrite (hclock : s.clock ≤ s'.clock)
    (hy : s.clock < y.lastUpdate ∨
      (y.id = x.id ∧ y.lastUpdate = x.lastUpdate ∧ y.destinations = x.destinations)) :
    ObjSucc s s' := by
  refine ⟨hclock, fun o ho => ?_⟩
  rw [hs'] at ho
  simp only [List.mem_append, List.mem_cons] at ho
  rcases ho with ho | rfl | ho
  · exact .inr ⟨o, by rw [hs]; simp [ho], rfl, rfl, rfl⟩
  · rcases hy with hy | ⟨h₁, h₂, h₃⟩
    · exact .inl hy
    · exact .inr ⟨x, by rw [hs]; simp, h₁.symm, h₂.symm, h₃.symm⟩
  · exact .inr ⟨o, by rw [hs]; simp [ho], rfl, rfl, rfl⟩

/-- Rewriting one document in place changes only the list under its id. -/
theorem destView_rewrite (h : ObjStore s) (hid : y.id = x.id) :
    ∀ p ∈ destView s', (p.1 = x.id ∧ p.2 = y.destinations) ∨ (p.1 ≠ x.id ∧ p ∈ destView s) := by
  have hnot : ∀ o ∈ a ++ b, o.id ≠ x.id := by
    have := h.ids
    rw [hs, List.map_append, List.map_cons, List.nodup_middle, ← List.map_append] at this
    exact fun o ho heq => (List.nodup_cons.mp this).1 (heq ▸ List.mem_map_of_mem _ ho)
  intro p hp
  simp only [destView, hs', List.map_append, List.map_cons, List.mem_append, List.mem_cons,
    List.mem_map] at hp
  have hview : ∀ o ∈ a ++ b, (o.id, o.destinations) ∈ destView s := fun o ho =>
    List.mem_map_of_mem (fun o : Object => (o.id, o.destinations))
      (by rw [hs]; simp only [List.mem_append, List.mem_cons] at ho ⊢; tauto)
  rcases hp with ⟨o, ho, rfl⟩ | rfl | ⟨o, ho, rfl⟩
  · exact .inr ⟨hnot o (by simp [ho]), hview o (by simp [ho])⟩
  · exact .inl ⟨hid, rfl⟩
  · exact .inr ⟨hnot o (by simp [ho]), hview o (by simp [ho])⟩

end Rewrite

/-- A rewrite that keeps the id, the key, the destinations and the token of a document. -/
def QuietEdit (x y : Object) : Prop :=
  y.id = x.id ∧ getObjectCollectionID y.metaData = getObjectCollectionID x.metaData ∧
    y.destinations = x.destinations ∧ y.lastUpdate = x.lastUpdate

theorem updateObject_quiet (h : ObjStore s) {filter : Object → Bool} {set : Object → Object}
    {cd : Bool} (hu : s.updateObject filter set cd = .ok s')
    (hset : ∀ x, s.objects.find? filter = some x → QuietEdit x (set x)) : Quiet s s' := by
  obtain ⟨a, x, b, hs, hfx, hs', hc⟩ := updateObject_eq hu
  obtain ⟨hid, hkey, hd, ht⟩ := hset x hfx
  have hx := h.stamped x (by rw [hs]; simp)
  cases cd <;> simp only [stamped, Bool.false_eq_true, if_false, if_true] at hs' hc
  · exact ⟨h.rewrite hs hs' hid hkey hc.ge (by omega),
      ObjSucc.rewrite hs hs' hc.ge (.inr ⟨hid, ht, hd⟩),
      by simp only [destView, hs, hs', List.map_append, List.map_cons, hid, hd]⟩
  · exact ⟨h.rewrite hs hs' hid hkey (by omega) (by simp [hc]),
      ObjSucc.rewrite hs hs' (by omega) (.inl (by simp)),
      by simp only [destView, hs, hs', List.map_append, List.map_cons, hid, hd]⟩

/-- A conditional update of the document `id` with the token `token` that writes the list
`ds` writes it to that document, which was there with that token. -/
theorem updateObject_write {id : String} {token : Nat} {set : Object → Object}
    {ds : List StoreDestinationStatus}
    (hu : s.updateObject (fun o => o.id == id && o.lastUpdate == token) set true = .ok s')
    (h : ObjStore s) (hset : ∀ o, (set o).id = o.id ∧
      getObjectCollectionID (set o).metaData = getObjectCollectionID o.metaData ∧ (set o).destinations = ds) :
    WriteTo s s' id ds ∧ ∃ x ∈ s.objects, x.id = id ∧ x.lastUpdate = token := by
  obtain ⟨a, x, b, hs, hx, hs', hc⟩ := updateObject_eq hu
  have hxf : x.id = id ∧ x.lastUpdate = token := by simpa using List.find?_some hx
  obtain ⟨hid, hkey, hd⟩ := hset x
  simp only [stamped, if_true] at hs' hc
  refine ⟨⟨h.rewrite hs hs' hid hkey (by omega) (by simp [hc]),
    ObjSucc.rewrite hs hs' (by omega) (.inl (by simp)), fun p hp => ?_⟩,
    x, List.mem_of_find?_eq_some hx, hxf⟩
  rw [← hxf.1, ← hd]
  exact destView_rewrite hs hs' h hid p hp

/-- The upsert of `StoreObject`: the document, stamped, replaces the one of its id or is
added, and is then what `fetchOne` returns for its id. -/
theorem upsertObject_write {filter : Object → Bool} {doc : Object}
    (hu : s.upsertObject filter doc = .ok s') (h : ObjStore s)
    (hfilter : ∀ o, filter o = true → o.id = doc.id) (hkey : doc.id = getObjectCollectionID doc.metaData)
    (h0 : doc.lastUpdate = 0) :
    WriteTo s s' doc.id doc.destinations ∧ s'.fetchObject doc.id = .ok { doc with lastUpdate := s.clock + 1 } := by
  unfold upsertObject at hu
  set d : Object := { doc with lastUpdate := s.clock + 1 } with hd
  have hfs : s.freshStamp doc = d := by simp [freshStamp, h0, hd]
  rw [hfs] at hu
  obtain ⟨objects, hup, rfl⟩ := exists_of_map_eq_ok hu
  obtain ⟨hn, hf⟩ := upsertDoc_keyed h.ids hup hfilter
  have hmem := mem_upsertDoc hup
  have hdm : d ∈ objects := List.mem_of_find?_eq_some hf
  have hw : WriteTo s { s with objects := objects, clock := s.clock + 1 } doc.id doc.destinations := by
    refine ⟨⟨hn, fun o ho => ?_, fun o ho => ?_⟩, ⟨Nat.le_succ _, fun o ho => ?_⟩, fun p hp => ?_⟩
    · rcases hmem o ho with rfl | ho
      exacts [hkey, h.keys o ho]
    · rcases hmem o ho with rfl | ho
      exacts [le_rfl, (h.stamped o ho).trans (Nat.le_succ _)]
    · rcases hmem o ho with rfl | ho
      exacts [.inl (Nat.lt_succ_self _), .inr ⟨o, ho, rfl, rfl, rfl⟩]
    · obtain ⟨o, ho, rfl⟩ := List.mem_map.mp hp
      by_cases hid : o.id = doc.id
      · obtain rfl := List.inj_on_of_nodup_map hn ho hdm hid
        exact .inl ⟨rfl, rfl⟩
      · rcases hmem o ho with rfl | ho'
        · exact absurd rfl hid
        · exact .inr ⟨hid, List.mem_map_of_mem _ ho'⟩
  exact ⟨hw, hw.store.fetchObject hdm⟩

/-! ### The other writers -/

/-- **The backend calls of the other writers keep every list**: calls whose updates keep the
id, the key, the destinations and the token of the document they match, and that upsert
nothing. -/
theorem quiet_of_calls (h : ObjStore s) (hc : ObjCalls QuietEdit (fun _ => False) s s') :
    Quiet s s' :=
  hc.lift (Quiet s) (.refl h) fun h₁ hcall => by
    cases hcall with
    | update hu hset => exact h₁.trans (updateObject_quiet h₁.store hu hset)
    | upsert _ _ hdoc => exact hdoc.elim
    | files => exact h₁.trans (Quiet.of_objects h₁.store rfl rfl)

/-- **`StoreObject` writes the destinations list it computes** to the document it stores,
which `fetchOne` then returns, or, when its upsert fails, writes no list. -/
theorem storeObject_effect (h : ObjStore s) (now : Now) (metaData : MetaData) (data : Option Bytes)
    (status : String) :
    ((s.storeObject now metaData data status).1 = .ok () ∧ ∃ o,
        (s.storeObject now metaData data status).2.fetchObject (getObjectCollectionID metaData) = .ok o ∧
        WriteTo s (s.storeObject now metaData data status).2 o.id o.destinations) ∨
      ((s.storeObject now metaData data status).1 ≠ .ok () ∧
        Quiet s (s.storeObject now metaData data status).2) := by
  rcases data with _ | data
  on_goal 1 =>
    by_cases hm : (!metaData.metaOnly || metaData.noData) = true <;>
      simp only [storeObject, hm, if_true, if_false]
  on_goal 3 => simp only [storeObject]
  all_goals
    split
    · rename_i s' hu
      obtain ⟨hw, hf⟩ := upsertObject_write hu (h.congr rfl rfl)
        (fun o ho => by simp only [Bool.and_eq_true, beq_iff_eq] at ho; exact ho.1)
        (by dsimp only; split <;> rfl) rfl
      exact .inl ⟨rfl, _, hf, hw.congr rfl rfl⟩
    · exact .inr ⟨by simp, Quiet.of_objects h rfl rfl⟩

/-- **What a call of another writer does**: `StoreObject` writes the destinations of the
document it stores and logs them; every other writer, among them the writes of the
`destinations` collection, keeps every list and logs nothing. -/
theorem ObjectCall.effect (h : ObjStore s) (c : ObjectCall) :
    (Quiet s (c.toStoreOp.run s) ∧ c.commits s = []) ∨
      ∃ id ds, c.commits s = [(id, .stored ds)] ∧ WriteTo s (c.toStoreOp.run s) id ds := by
  cases c with
  | storeObject now metaData data status =>
    rcases storeObject_effect h now metaData data status with ⟨hok, o, hf, hw⟩ | ⟨hne, hq⟩
    · exact .inr ⟨o.id, o.destinations, by simp only [ObjectCall.commits, hok, hf], hw⟩
    · refine .inl ⟨hq, ?_⟩
      rcases hr : (s.storeObject now metaData data status).1 with e | ⟨⟩
      · simp only [ObjectCall.commits, hr]
      · exact absurd hr hne
  | storeObjectData =>
    exact .inl ⟨quiet_of_calls h (storeObjectData_calls (fun _ => ⟨rfl, rfl, rfl, rfl⟩)
      (fun _ _ => ⟨rfl, rfl, rfl, rfl⟩) (fun _ _ => ⟨rfl, rfl, rfl, rfl⟩)), rfl⟩
  | updateObjectStatus | markObjectDeleted | activateObject =>
    exact .inl ⟨quiet_of_calls h (setObjectFields_calls fun _ => ⟨rfl, rfl, rfl, rfl⟩), rfl⟩
  | decrementAndReturnRemainingConsumers | decrementAndReturnRemainingReceivers =>
    exact .inl ⟨quiet_of_calls h (decrementAndReturnRemaining_calls fun _ => ⟨rfl, rfl, rfl, rfl⟩),
      rfl⟩
  | resetObjectRemainingConsumers =>
    exact .inl ⟨quiet_of_calls h (resetObjectRemainingConsumers_calls fun _ => ⟨rfl, rfl, rfl, rfl⟩),
      rfl⟩
  | storeDestination destination =>
    obtain ⟨_, he⟩ := storeDestination_only s destination
    have he' : (ObjectCall.storeDestination destination).toStoreOp.run s = _ := he
    exact .inl ⟨Quiet.of_objects h (by rw [he']) (by rw [he']), rfl⟩
  | deleteDestination => exact .inl ⟨Quiet.of_objects h rfl rfl, rfl⟩

/-! ### The calls in flight -/

/-- The write of an attempt of a read-modify-write call keeps the id and the key of the
document, and puts the list the call means to write over the list it fetched. -/
theorem RmwCall.update_spec {c : RmwCall} {result : Object} {set : Object → Object}
    (h : c.update result = .ok set) : ∀ o, (set o).id = o.id ∧
      getObjectCollectionID (set o).metaData = getObjectCollectionID o.metaData ∧
      (set o).destinations = c.destWrite.apply result.destinations := by
  cases c with
  | updateObjectDelivering => cases h; exact fun _ => ⟨rfl, rfl, rfl⟩
  | updateObjectDeliveryStatus now status message _ _ _ destType destID =>
    simp only [RmwCall.update, deliveryStatusUpdate] at h
    split at h
    · rename_i set' hd
      cases h
      unfold deliveryStatusWrite at hd
      split at hd
      rename_i found allConsumed dests heq
      split_ifs at hd <;> cases hd <;>
        exact fun _ => ⟨rfl, rfl, by simp [RmwCall.destWrite, DestWrite.apply, heq]⟩
    · cases h

/-- What a call in flight holds of the store: every document it fetched and has still to
write is current. -/
def ProcFresh (s : MongoStorage) : Proc → Prop
  | .rmw c (.commit _ result) => Current s c.id result
  | .retrieveObjects orgID _ _ (.scan _ rs _) =>
    ∀ r ∈ rs, Current s (createObjectCollectionID orgID r.metaData.objectType r.metaData.objectID) r
  | .retrieveObjects orgID _ _ (.commit _ r rs _ _) =>
    ∀ r' ∈ r :: rs, Current s (createObjectCollectionID orgID r'.metaData.objectType r'.metaData.objectID) r'
  | _ => True

theorem ProcFresh.mono (hs : ObjSucc s s') : ∀ {p : Proc}, ProcFresh s p → ProcFresh s' p
  | .rmw _ (.fetch _), _ => trivial
  | .rmw _ (.commit _ _), h => Current.mono hs h
  | .rmw _ (.done _), _ => trivial
  | .retrieveObjects _ _ _ (.fetch _), _ => trivial
  | .retrieveObjects _ _ _ (.scan ..), h => fun r hr => Current.mono hs (h r hr)
  | .retrieveObjects _ _ _ (.commit ..), h => fun r hr => Current.mono hs (h r hr)
  | .retrieveObjects _ _ _ (.done _), _ => trivial

/-- What one step of a call in flight does: it keeps every list and logs nothing, or it
commits the write `w` to the object `id`, applied to the list that object had. -/
def StepEffect (s s' : MongoStorage) (log : List (String × DestWrite)) : Prop :=
  (Quiet s s' ∧ log = []) ∨
    ∃ id w, log = [(id, w)] ∧ ∃ x ∈ s.objects, x.id = id ∧ WriteTo s s' id (w.apply x.destinations)

theorem StepEffect.quiet (h : ObjStore s) : StepEffect s s [] := .inl ⟨Quiet.refl h, rfl⟩

/-- **Step lemma of a read-modify-write call.** -/
theorem RmwCall.step_effect (h : ObjStore s) (c : RmwCall) {pc : RmwPc}
    (hf : ProcFresh s (.rmw c pc)) :
    ProcFresh (c.step s pc).2.1 (.rmw c (c.step s pc).1) ∧
      StepEffect s (c.step s pc).2.1 (c.step s pc).2.2 := by
  cases pc with
  | fetch n =>
    cases n with
    | zero => exact ⟨trivial, .quiet h⟩
    | succ n =>
      simp only [RmwCall.step]
      split
      · exact ⟨trivial, .quiet h⟩
      · rename_i result hfe
        have hfind := fetchObject_ok hfe
        have hid : result.id = c.id := by simpa using List.find?_some hfind
        exact ⟨show Current s c.id result from hid ▸ h.current (List.mem_of_find?_eq_some hfind),
          .quiet h⟩
  | commit n result =>
    simp only [RmwCall.step]
    split
    · exact ⟨trivial, .quiet h⟩
    · rename_i set hup
      split
      · rename_i s' hu
        obtain ⟨hw, x, hx, hxid, hxt⟩ := updateObject_write hu h (RmwCall.update_spec hup)
        have hxd : x.destinations = result.destinations := hf.2 x hx hxid hxt
        exact ⟨trivial, .inr ⟨c.id, c.destWrite, rfl, x, hx, hxid, hxd ▸ hw⟩⟩
      · exact ⟨trivial, .quiet h⟩
      · exact ⟨trivial, .quiet h⟩
  | done r => exact ⟨trivial, .quiet h⟩

/-- **Step lemma of `RetrieveObjects`.** -/
theorem scanStep_effect (h : ObjStore s) (orgID destType destID : String) {pc : ScanPc}
    (hf : ProcFresh s (.retrieveObjects orgID destType destID pc)) :
    ProcFresh (scanStep orgID destType destID s pc).2.1
        (.retrieveObjects orgID destType destID (scanStep orgID destType destID s pc).1) ∧
      StepEffect s (scanStep orgID destType destID s pc).2.1 (scanStep orgID destType destID s pc).2.2 := by
  cases pc with
  | fetch n =>
    cases n with
    | zero => exact ⟨trivial, .quiet h⟩
    | succ n =>
      refine ⟨fun r hr => ?_, .quiet h⟩
      obtain ⟨hr, hq⟩ := List.mem_filter.mp hr
      have horg : r.metaData.destOrgID = orgID := by
        simp only [retrieveObjectsQuery, Bool.and_eq_true, beq_iff_eq] at hq; exact hq.1
      have hid := h.keys r hr
      simp only [getObjectCollectionID, horg] at hid
      exact hid ▸ h.current hr
  | scan n rs metaDatas =>
    cases rs with
    | nil => exact ⟨trivial, .quiet h⟩
    | cons r rs =>
      have htail : ProcFresh s (.retrieveObjects orgID destType destID (.scan n rs metaDatas)) :=
        fun r' hr' => hf r' (List.mem_cons_of_mem r hr')
      simp only [scanStep]
      split
      · split
        · exact ⟨hf, .quiet h⟩
        · exact ⟨htail, .quiet h⟩
      · exact ⟨htail, .quiet h⟩
  | commit n r rs metaDatas entry =>
    simp only [scanStep]
    split
    · rename_i s' hu
      obtain ⟨hw, x, hx, hxid, hxt⟩ := updateObject_write hu h fun _ => ⟨rfl, rfl, rfl⟩
      have hxd : x.destinations = r.destinations := (hf r (List.mem_cons_self r rs)).2 x hx hxid hxt
      refine ⟨fun r' hr' => Current.mono hw.succ (hf r' (List.mem_cons_of_mem r hr')),
        .inr ⟨_, .added entry, rfl, x, hx, hxid, ?_⟩⟩
      rw [hxd]
      exact hw
    · exact ⟨trivial, .quiet h⟩
    · exact ⟨trivial, .quiet h⟩
  | done r => exact ⟨trivial, .quiet h⟩

theorem Proc.step_effect (h : ObjStore s) : ∀ {p : Proc}, ProcFresh s p →
    ProcFresh (p.step s).2.1 (p.step s).1 ∧ StepEffect s (p.step s).2.1 (p.step s).2.2
  | .rmw c _, hf => RmwCall.step_effect h c hf
  | .retrieveObjects orgID destType destID _, hf => scanStep_effect h orgID destType destID hf

/-! ### Runs -/

/-- **The invariant of the runs**: the store is keyed and stamped, every destinations list
is what the log's writes make of it, and every call in flight holds current documents. -/
structure SysInv (sys : Sys) : Prop where
  store : ObjStore sys.store
  linearized : ∀ p ∈ destView sys.store, p.2 = sys.linearized p.1 []
  procs : ∀ p ∈ sys.procs, ProcFresh sys.store p

theorem linearized_concat (store : MongoStorage) (procs : List Proc) (hist : List (String × DestWrite))
    (id : String) (w : DestWrite) (id' : String) (init : List StoreDestinationStatus) :
    Sys.linearized ⟨store, procs, hist ++ [(id, w)]⟩ id' init =
      if id' = id then w.apply (Sys.linearized ⟨store, procs, hist⟩ id' init)
      else Sys.linearized ⟨store, procs, hist⟩ id' init := by
  by_cases h : id' = id
  · subst h; simp [Sys.linearized, List.filter_append]
  · simp [Sys.linearized, List.filter_append, Ne.symm h, h]

/-- A write of `ds` to the object `id`, logged as `w`, keeps every list what the log makes of
it when `ds` is what `w` makes of the log's list for `id`. -/
theorem SysInv.linearized_write {sys : Sys} (h : SysInv sys) {s' : MongoStorage} {id : String}
    {w : DestWrite} {ds : List StoreDestinationStatus} (hw : WriteTo sys.store s' id ds)
    (hds : ds = w.apply (sys.linearized id [])) (procs : List Proc) :
    ∀ p ∈ destView s', p.2 = Sys.linearized ⟨s', procs, sys.hist ++ [(id, w)]⟩ p.1 [] := by
  intro p hp
  rw [linearized_concat]
  rcases hw.view p hp with ⟨h₁, h₂⟩ | ⟨h₁, h₂⟩
  · rw [if_pos h₁, h₂, hds, h₁]; rfl
  · rw [if_neg h₁]; exact h.linearized p h₂

theorem SysInv.event {sys : Sys} (h : SysInv sys) : ∀ e, SysInv (sys.event e)
  | .step i => by
    dsimp only [Sys.event]
    split
    · rename_i p hp
      have hs : ProcFresh (p.step sys.store).2.1 (p.step sys.store).1 ∧
          StepEffect sys.store (p.step sys.store).2.1 (p.step sys.store).2.2 :=
        Proc.step_effect h.store (h.procs p (List.getElem?_mem hp))
      generalize p.step sys.store = r at hs ⊢
      obtain ⟨p', s', log⟩ := r
      obtain ⟨hf, ⟨hq, rfl⟩ | ⟨id, w, rfl, x, hx, hxid, hw⟩⟩ := hs
      · refine ⟨hq.store, ?_, fun q hq' => ?_⟩
        · rw [List.append_nil, hq.view]; exact h.linearized
        · rcases List.mem_or_eq_of_mem_set hq' with hq' | rfl
          · exact (h.procs q hq').mono hq.succ
          · exact hf
      · have hlin : x.destinations = sys.linearized id [] :=
          hxid ▸ h.linearized (x.id, x.destinations) (List.mem_map_of_mem _ hx)
        refine ⟨hw.store, h.linearized_write hw (by rw [hlin]) _, fun q hq' => ?_⟩
        rcases List.mem_or_eq_of_mem_set hq' with hq' | rfl
        · exact (h.procs q hq').mono hw.succ
        · exact hf
    · exact h
  | .call c => by
    dsimp only [Sys.event]
    rcases ObjectCall.effect h.store c with ⟨hq, hc⟩ | ⟨id, ds, hc, hw⟩
    · refine ⟨hq.store, ?_, fun p hp => (h.procs p hp).mono hq.succ⟩
      rw [hc, List.append_nil, hq.view]
      exact h.linearized
    · refine ⟨hw.store, ?_, fun p hp => (h.procs p hp).mono hw.succ⟩
      rw [hc]
      exact h.linearized_write hw (show ds = (DestWrite.stored ds).apply _ from rfl) _

theorem SysInv.run : ∀ (es : List Event) {sys : Sys}, SysInv sys → SysInv (sys.run es)
  | [], _, h => h
  | e :: es, _, h => SysInv.run es (h.event e)

/-- A call on destinations lists, before its first step. -/
inductive DestCall
  | rmw (c : RmwCall)
  | retrieveObjects (orgID destType destID : String)

/-- Where a call starts. -/
def DestCall.start : DestCall → Proc
  | .rmw c => .rmw c c.start
  | .retrieveObjects orgID destType destID => .retrieveObjects orgID destType destID (.fetch maxUpdateTries)

theorem sysInv_start (s : MongoStorage) (calls : List DestCall) :
    SysInv ⟨{ s with objects := [] }, calls.map DestCall.start, []⟩ where
  store := ObjStore.noObjects s
  linearized _ h := nomatch h
  procs p hp := by
    obtain ⟨c, -, rfl⟩ := List.mem_map.mp hp
    cases c with
    | rmw c =>
      cases c <;> simp only [DestCall.start, RmwCall.start]
      · split <;> trivial
      · trivial
    | retrieveObjects => trivial

/-- **The destinations lists are linearizable.**  Start from any store with no object
documents, and run any interleaving of the steps of the calls `calls` with any calls of the
other writers: the object ids stay distinct, and every object's destinations list is the log's
committed writes to it applied in commit order. -/
theorem destinations_linearizable (s : MongoStorage) (calls : List DestCall) (es : List Event) :
    let sys : Sys := Sys.run ⟨{ s with objects := [] }, calls.map DestCall.start, []⟩ es
    (sys.store.objects.map Object.id).Nodup ∧
      ∀ o ∈ sys.store.objects, o.destinations = sys.linearized o.id [] := by
  intro sys
  have h : SysInv sys := SysInv.run es (sysInv_start s calls)
  exact ⟨h.store.ids, fun o ho => h.linearized (o.id, o.destinations) (List.mem_map_of_mem _ ho)⟩

end MongoStorage

end EdgeSync
