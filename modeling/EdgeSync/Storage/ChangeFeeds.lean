import EdgeSync.Storage.Keyed

/-!
# The change feeds of organizations and messaging groups

The cloud server keeps several instances in step through two feeds: `StoreOrganization`
returns the timestamp of the record it wrote "for multiple CSS updates", and
`RetrieveUpdatedOrganizations(t)` and `RetrieveUpdatedMessagingGroups(t)` return the records
stamped at `t` or later.  A feed read at a cursor misses nothing written after it when every
write stamps its record later than the clock stood, and no call puts the clock back.

`FeedStep s s'` says that of two stores: the clock of `s'` is not behind that of `s`, and every
organization record and messaging group of `s'` is one of `s` or is stamped after the clock of
`s`.  Every store operation is such a step (`FeedStep.step`), so is every run of them
(`FeedStep.runs`), and the feeds read at the timestamp `StoreOrganization` returns list
every record written since the call, whatever runs in between
(`changeFeeds_after_storeOrganization`).

The feeds in Go compare server timestamps of whole seconds, and `StoreOrganization` returns the
time of its record in seconds; the feeds may then also list records of the same second written
before the call.  What is proved here, that nothing written after the call is missed, holds
of both.
-/

namespace EdgeSync

namespace MongoStorage

/-- The store `s'` follows `s` for the change feeds. -/
structure FeedStep (s s' : MongoStorage) : Prop where
  clock_le : s.clock ≤ s'.clock
  organizations : ∀ o ∈ s'.organizations, o ∈ s.organizations ∨ s.clock < o.lastUpdate
  messagingGroups : ∀ g ∈ s'.messagingGroups, g ∈ s.messagingGroups ∨ s.clock < g.lastUpdate

variable {s s' s'' : MongoStorage}

namespace FeedStep

theorem refl (s : MongoStorage) : FeedStep s s :=
  ⟨le_rfl, fun _ h => .inl h, fun _ h => .inl h⟩

theorem trans (h : FeedStep s s') (h' : FeedStep s' s'') : FeedStep s s'' where
  clock_le := h.clock_le.trans h'.clock_le
  organizations o ho := (h'.organizations o ho).elim (h.organizations o)
    fun hlt => .inr (lt_of_le_of_lt h.clock_le hlt)
  messagingGroups g hg := (h'.messagingGroups g hg).elim (h.messagingGroups g)
    fun hlt => .inr (lt_of_le_of_lt h.clock_le hlt)

/-- A write that leaves both feeds' collections as they were. -/
theorem of_frame (ho : s'.organizations = s.organizations)
    (hg : s'.messagingGroups = s.messagingGroups) (hc : s.clock ≤ s'.clock) : FeedStep s s' :=
  ⟨hc, fun _ h => .inl (ho ▸ h), fun _ h => .inl (hg ▸ h)⟩

theorem of_objectsOnly (h : ObjectsOnly s s') : FeedStep s s' :=
  of_frame h.organizations h.messagingGroups h.clock_le

/-- The upserts of `upsertOrganization` and `upsertMessagingGroup`: a document stamped with the
next tick of the clock. -/
theorem of_upsert {α : Type} {key : α → String} {filter : α → Bool} {doc : α}
    {docs docs' : List α} (stamp : α → Nat) (hu : upsertDoc key filter doc docs = .ok docs')
    (hdoc : stamp doc = s.clock + 1) : ∀ y ∈ docs', y ∈ docs ∨ s.clock < stamp y := by
  intro y hy
  rcases mem_upsertDoc hu y hy with rfl | hy
  · exact .inr (by omega)
  · exact .inl hy

end FeedStep

/-- Every backend call of an object operation leaves the other collections and moves the clock
forward only. -/
theorem objectsOnly_of_calls {E : Object → Object → Prop} {U : Object → Prop}
    (hc : ObjCalls E U s s') : ObjectsOnly s s' :=
  hc.lift (ObjectsOnly s) (.refl s) fun h₁ hcall => by
    cases hcall with
    | update hu => exact h₁.trans (.updateObject hu)
    | upsert hu => exact h₁.trans (.upsertObject hu)
    | files => exact h₁.trans .of_files

/-- The backend calls of an object operation, whatever they write, are a step of the feeds. -/
theorem FeedStep.of_calls (hc : ObjCalls (fun _ _ => True) (fun _ => True) s s') : FeedStep s s' :=
  .of_objectsOnly (objectsOnly_of_calls hc)

/-- **Step lemma.**  Every store operation is a step of the feeds. -/
theorem FeedStep.step (s : MongoStorage) : ∀ op : StoreOp, FeedStep s (StoreOp.run s op)
  | .storeObject .. => .of_calls (storeObject_calls fun _ _ _ _ _ => trivial)
  | .storeObjectData .. =>
    .of_calls (storeObjectData_calls (fun _ => trivial) (fun _ _ => trivial) fun _ _ => trivial)
  | .appendObjectData .. => .of_calls appendObjectData_calls
  | .updateObjectStatus .. | .markObjectDeleted .. | .activateObject .. =>
    .of_calls (setObjectFields_calls fun _ => trivial)
  | .updateObjectDeliveryStatus .. =>
    .of_calls (updateObjectDeliveryStatus_calls (fun _ _ => trivial) fun _ _ _ => trivial)
  | .updateObjectDelivering .. => .of_calls (updateObjectDelivering_calls fun _ _ => trivial)
  | .decrementAndReturnRemainingConsumers .. | .decrementAndReturnRemainingReceivers .. =>
    .of_calls (decrementAndReturnRemaining_calls fun _ => trivial)
  | .resetObjectRemainingConsumers .. =>
    .of_calls (resetObjectRemainingConsumers_calls fun _ => trivial)
  | .retrieveObjects .. => .of_calls (retrieveObjects_calls fun _ _ => trivial)
  | .deleteStoredObject .. => .of_frame rfl rfl le_rfl
  | .deleteStoredData .. => .of_calls deleteStoredData_calls
  | .storeDestination destination => by
    obtain ⟨_, he⟩ := storeDestination_only s destination
    rw [StoreOp.run, he]
    exact .of_frame rfl rfl le_rfl
  | .deleteDestination .. => .of_frame rfl rfl le_rfl
  | .updateNotificationRecord now resendInterval notification => by
    obtain ⟨_, he⟩ := updateNotificationRecord_only s now resendInterval notification
    rw [StoreOp.run, he]
    exact .of_frame rfl rfl le_rfl
  | .updateNotificationResendTime now resendInterval notification => by
    obtain ⟨_, he⟩ := updateNotificationResendTime_only s now resendInterval notification
    rw [StoreOp.run, he]
    exact .of_frame rfl rfl le_rfl
  | .deleteNotificationRecords .. => .of_frame rfl rfl le_rfl
  | .storeOrgToMessagingGroup orgID messagingGroup => by
    obtain ⟨_, hu, he⟩ := storeOrgToMessagingGroup_only s orgID messagingGroup
    rw [StoreOp.run, he]
    exact ⟨Nat.le_succ _, fun _ h => .inl h, FeedStep.of_upsert MessagingGroupObject.lastUpdate hu rfl⟩
  | .deleteOrgToMessagingGroup .. =>
    ⟨le_rfl, fun _ h => .inl h, fun _ h => .inl (List.mem_of_mem_filter h)⟩
  | .storeOrganization org => by
    obtain ⟨_, hu, he⟩ := storeOrganization_only s org
    rw [StoreOp.run, he]
    exact ⟨Nat.le_succ _, FeedStep.of_upsert OrganizationObject.lastUpdate hu rfl,
      fun _ h => .inl h⟩
  | .deleteOrganizationInfo .. =>
    ⟨le_rfl, fun _ h => .inl (List.mem_of_mem_filter h), fun _ h => .inl h⟩
  | .deleteOrganization orgID =>
    ⟨le_rfl, fun _ h => .inl h,
      fun g h => .inl ((mem_deleteOrganization s orgID).1 g |>.mp h).1⟩
  | .addWebhook orgID objectType url => by
    obtain ⟨_, _, hc, he⟩ := addWebhookLoop_only (webhookID orgID objectType) url maxUpdateTries 0 s
    rw [StoreOp.run, addWebhook, he]
    exact .of_frame rfl rfl hc
  | .deleteWebhook orgID objectType url => by
    obtain ⟨_, _, hc, he⟩ := deleteWebhookLoop_only equalFold (webhookID orgID objectType) url maxUpdateTries s
    rw [StoreOp.run, deleteWebhook, he]
    exact .of_frame rfl rfl hc
  | .retrieveObjectData orgID objectType objectID => by
    obtain ⟨_, he⟩ := (retrieveObjectData_write s orgID objectType objectID).only
    rw [StoreOp.run, he]
    exact .of_frame rfl rfl le_rfl
  | .closeDataReader id content => by
    obtain ⟨_, he⟩ := (closeDataReader_write s id content).only
    rw [StoreOp.run, he]
    exact .of_frame rfl rfl le_rfl

/-- **Run lemma.** -/
theorem FeedStep.runs : ∀ (ops : List StoreOp) (s : MongoStorage), FeedStep s (runOps s ops)
  | [], s => .refl s
  | op :: ops, s => (FeedStep.step s op).trans (FeedStep.runs ops _)

/-- **The change feeds miss nothing.**  `StoreOrganization` returns a timestamp `t`; after any
run of store operations that follows, `RetrieveUpdatedOrganizations(t)` lists every organization
record, and `RetrieveUpdatedMessagingGroups(t)` every messaging group, that the store did not
hold before the call. -/
theorem changeFeeds_after_storeOrganization (s : MongoStorage) (org : Organization)
    (ops : List StoreOp) :
    ∃ t, (s.storeOrganization org).1 = .ok t ∧
      let s' : MongoStorage := runOps (s.storeOrganization org).2 ops
      (∀ orgs, s'.retrieveUpdatedOrganizations t = .ok orgs →
        ∀ o ∈ s'.organizations, o ∉ s.organizations → ⟨o.organization, o.lastUpdate⟩ ∈ orgs) ∧
      (∀ groups, s'.retrieveUpdatedMessagingGroups t = .ok groups →
        ∀ g ∈ s'.messagingGroups, g ∉ s.messagingGroups → ⟨g.id, g.groupName⟩ ∈ groups) := by
  refine ⟨s.clock + 1, (retrieveOrganizationInfo_after_store s org).1, ?_⟩
  have h := (FeedStep.step s (.storeOrganization org)).trans (FeedStep.runs ops _)
  refine ⟨fun orgs hl o ho hnew => ?_, fun groups hl g hg hnew => ?_⟩
  · have hlt := (h.organizations o ho).resolve_left hnew
    simp only [retrieveUpdatedOrganizations, Except.ok.injEq] at hl
    exact hl ▸ List.mem_map_of_mem _ (List.mem_filter.mpr ⟨ho, decide_eq_true hlt⟩)
  · have hlt := (h.messagingGroups g hg).resolve_left hnew
    simp only [retrieveUpdatedMessagingGroups, Except.ok.injEq] at hl
    exact hl ▸ List.mem_map_of_mem _ (List.mem_filter.mpr ⟨hg, decide_eq_true hlt⟩)

end MongoStorage

end EdgeSync
