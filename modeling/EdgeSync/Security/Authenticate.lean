import Mathlib.Data.List.Basic
import Mathlib.Data.String.Basic

/-!
# `DummyAuthenticate`: app keys read as identities

The development-time authenticator of the sync service ignores app secrets and reads the
identity off the app key of a request's basic authentication.  A key `orgID/destType/destID`
is an edge node; a key `userID@orgID` or `email@emailDomain@orgID` is a user of the org,
who is a regular user or a sync admin when listed so in the file `dummy-auth.json` read by
`Start`, and an admin of the org otherwise.  `KeyandSecretForURL` gives the sync service the
key it presents to the cloud server: `orgID/destType/destID` from its configuration.

`strings.Split` with a one-character separator is `List.splitOnP` on the characters, which is
`String.split` on that character (`stringsSplit_eq_split`) and, unlike it, evaluates.

Main results:
* a key made of three parts with no `/` in them splits into those parts
  (`stringsSplit_three`), and `Authenticate` reads it as that edge node
  (`authenticate_edge_node`);
* the key `KeyandSecretForURL` builds for the cloud server is read back by `Authenticate` as
  the configured node, when the configured ids have no `/` (`authenticate_keyandSecretForURL`);
* a key `userID@orgID` or `email@emailDomain@orgID` is read as that user, by the lists of
  `dummy-auth.json` (`authenticate_of_userOfKey`), and a key with a number of `/` other than
  two and of `@` other than one or two is refused (`authenticate_failed`);
* the reading of every kind of key at once (`authenticate_decodes_keys`).
-/

namespace EdgeSync

/-! ### `strings.Split` -/

/-- `strings.Split(s, sep)` for a separator of one character: the runs of characters between
the separators, computed on the characters so that it evaluates. -/
def stringsSplit (s : String) (sep : Char) : List String :=
  (s.data.splitOnP (· == sep)).map String.mk

/-- `stringsSplit` is `String.split` on the separator. -/
theorem stringsSplit_eq_split (s : String) (sep : Char) : stringsSplit s sep = s.split (· == sep) :=
  (String.split_of_valid s _).symm

theorem stringsSplit_eq (s : String) (sep : Char) :
    stringsSplit s sep = (s.data.splitOnP (· == sep)).map String.mk := rfl

theorem not_sep_of_not_mem {s : String} {sep : Char} (h : sep ∉ s.data) :
    ∀ x ∈ s.data, ¬(x == sep) = true :=
  fun _ hx hx' => h (beq_iff_eq.mp hx' ▸ hx)

/-- A string with no separator is its own only part. -/
theorem stringsSplit_of_not_mem {s : String} {sep : Char} (h : sep ∉ s.data) :
    stringsSplit s sep = [s] := by
  rw [stringsSplit_eq, List.splitOnP_eq_single _ _ (not_sep_of_not_mem h)]
  rfl

/-- The first part of a string is what stands before its first separator. -/
theorem stringsSplit_append {a : String} (b : String) {sep : Char} (h : sep ∉ a.data) :
    stringsSplit (a ++ String.singleton sep ++ b) sep = a :: stringsSplit b sep := by
  have hdata : (a ++ String.singleton sep ++ b).data = a.data ++ sep :: b.data := by
    simp [String.singleton]
  rw [stringsSplit_eq, hdata,
    List.splitOnP_first _ _ (not_sep_of_not_mem h) sep (beq_self_eq_true sep), List.map_cons,
    stringsSplit_eq]

/-- A key of three parts with no separator in them splits into those parts. -/
theorem stringsSplit_three {a b c : String} {sep : Char} (ha : sep ∉ a.data) (hb : sep ∉ b.data)
    (hc : sep ∉ c.data) :
    stringsSplit (a ++ String.singleton sep ++ b ++ String.singleton sep ++ c) sep = [a, b, c] := by
  have hdata : (a ++ String.singleton sep ++ b ++ String.singleton sep ++ c).data =
      a.data ++ sep :: (b.data ++ sep :: c.data) := by
    simp [String.singleton]
  have hsep : (sep == sep) = true := beq_self_eq_true sep
  rw [stringsSplit_eq, hdata, List.splitOnP_first _ _ (not_sep_of_not_mem ha) sep hsep,
    List.splitOnP_first _ _ (not_sep_of_not_mem hb) sep hsep,
    List.splitOnP_eq_single _ _ (not_sep_of_not_mem hc)]
  rfl

theorem length_splitOnP {α : Type} (p : α → Bool) :
    ∀ l : List α, (l.splitOnP p).length = l.countP p + 1
  | [] => rfl
  | x :: xs => by
    rw [List.splitOnP_cons, List.countP_cons]
    split <;> simp [*, length_splitOnP p xs]

/-- `strings.Split` makes one part more than there are separators. -/
theorem length_stringsSplit (s : String) (sep : Char) :
    (stringsSplit s sep).length = s.data.count sep + 1 := by
  rw [stringsSplit_eq, List.length_map, length_splitOnP, List.count]

/-! ### The authenticator -/

/-- Modelled from the spec: the codes `Authenticate` returns, constants of the `security`
package; the proofs only use that they are distinct. -/
inductive AuthCode
  | authFailed
  | authEdgeNode
  | authAdmin
  | authSyncAdmin
  | authUser
deriving DecidableEq, Repr

/-- `authInfo`, the content of `dummy-auth.json`. -/
structure AuthInfo where
  regularUsers : List String
  syncAdmins : List String
deriving DecidableEq, Repr

/-- `DummyAuthenticate`. -/
structure DummyAuthenticate where
  regularUsers : List String
  syncAdmins : List String
deriving DecidableEq, Repr

/-- What `Start` finds of `dummy-auth.json`: no file it can open, a file that does not
decode, or the decoded `authInfo`. -/
inductive AuthFile
  | missing
  | malformed
  | decoded (info : AuthInfo)

/-- `Start`.  When the file cannot be opened, only the regular users are reset. -/
def DummyAuthenticate.start (auth : DummyAuthenticate) : AuthFile → DummyAuthenticate
  | .missing => { auth with regularUsers := [] }
  | .malformed => { regularUsers := [], syncAdmins := [] }
  | .decoded info => { regularUsers := info.regularUsers, syncAdmins := info.syncAdmins }

/-- The user and the org of a key `userID@orgID` or `email@emailDomain@orgID`. -/
def userOfKey (appKey : String) : Option (String × String) :=
  match stringsSplit appKey '@' with
  | [user, orgID] => some (user, orgID)
  | [email, emailDomain, orgID] => some (email ++ "@" ++ emailDomain, orgID)
  | _ => none

/-- `Authenticate`, on the app key of the request's basic authentication (`none` when the
request has none): the code, the org and the identity. -/
def DummyAuthenticate.authenticate (auth : DummyAuthenticate) (appKey : Option String) :
    AuthCode × String × String :=
  match appKey with
  | none => (.authFailed, "", "")
  | some appKey =>
    match stringsSplit appKey '/' with
    | [orgID, destType, destID] => (.authEdgeNode, orgID, destType ++ "/" ++ destID)
    | _ =>
      match userOfKey appKey with
      | none => (.authFailed, "", "")
      | some (user, orgID) =>
        if user ∈ auth.regularUsers then (.authUser, orgID, user)
        else if user ∈ auth.syncAdmins then (.authSyncAdmin, "", user)
        else (.authAdmin, orgID, user)

/-- The fields of `common.Configuration` that `KeyandSecretForURL` reads. -/
structure Configuration where
  orgID : String
  destinationType : String
  destinationID : String
deriving DecidableEq, Repr

/-- `KeyandSecretForURL`: the key and the secret for a URL of the cloud server, whose prefix
`common.HTTPCSSURL` is `cssURL`; none for any other URL. -/
def DummyAuthenticate.keyandSecretForURL (_auth : DummyAuthenticate) (config : Configuration)
    (cssURL url : String) : String × String :=
  if cssURL.isPrefixOf url then
    (config.orgID ++ "/" ++ config.destinationType ++ "/" ++ config.destinationID, "")
  else ("", "")

/-- A key of three parts with no `/` in them is read as an edge node. -/
theorem authenticate_edge_node (auth : DummyAuthenticate) {orgID destType destID : String}
    (ho : '/' ∉ orgID.data) (ht : '/' ∉ destType.data) (hi : '/' ∉ destID.data) :
    auth.authenticate (some (orgID ++ "/" ++ destType ++ "/" ++ destID)) =
      (.authEdgeNode, orgID, destType ++ "/" ++ destID) := by
  have h := stringsSplit_three ho ht hi
  simp only [DummyAuthenticate.authenticate]
  rw [show "/" = String.singleton '/' from rfl, h]

/-- **The key of the sync service is read back as the configured node.**  The key
`KeyandSecretForURL` gives for a URL of the cloud server is authenticated as the edge node of
the configuration, when its org, destination type and destination id have no `/`. -/
theorem authenticate_keyandSecretForURL (auth : DummyAuthenticate) (config : Configuration)
    {cssURL url : String} (hurl : cssURL.isPrefixOf url = true)
    (ho : '/' ∉ config.orgID.data) (ht : '/' ∉ config.destinationType.data)
    (hi : '/' ∉ config.destinationID.data) :
    auth.authenticate (some (auth.keyandSecretForURL config cssURL url).1) =
      (.authEdgeNode, config.orgID, config.destinationType ++ "/" ++ config.destinationID) := by
  simp only [DummyAuthenticate.keyandSecretForURL, hurl, if_true]
  exact authenticate_edge_node auth ho ht hi

theorem userOfKey_user {user orgID : String} (hu : '@' ∉ user.data) (ho : '@' ∉ orgID.data) :
    userOfKey (user ++ "@" ++ orgID) = some (user, orgID) := by
  unfold userOfKey
  rw [show "@" = String.singleton '@' from rfl, stringsSplit_append _ hu, stringsSplit_of_not_mem ho]

theorem userOfKey_email {email emailDomain orgID : String} (he : '@' ∉ email.data)
    (hd : '@' ∉ emailDomain.data) (ho : '@' ∉ orgID.data) :
    userOfKey (email ++ "@" ++ emailDomain ++ "@" ++ orgID) = some (email ++ "@" ++ emailDomain, orgID) := by
  unfold userOfKey
  rw [show "@" = String.singleton '@' from rfl, stringsSplit_three he hd ho]

/-- A key with no `/` that names a user of an org is read as that user: a regular user, a
sync admin (of no org), or else an admin of the org. -/
theorem authenticate_of_userOfKey (auth : DummyAuthenticate) {appKey user orgID : String}
    (hs : '/' ∉ appKey.data) (hk : userOfKey appKey = some (user, orgID)) :
    auth.authenticate (some appKey) =
      if user ∈ auth.regularUsers then (.authUser, orgID, user)
      else if user ∈ auth.syncAdmins then (.authSyncAdmin, "", user)
      else (.authAdmin, orgID, user) := by
  simp only [DummyAuthenticate.authenticate, stringsSplit_of_not_mem hs, hk]

example : (⟨["alice"], []⟩ : DummyAuthenticate).authenticate (some "alice@org") =
    (.authUser, "org", "alice") := by decide

/-- A key with a number of `/` other than two, and of `@` other than one or two, is
refused. -/
theorem authenticate_failed (auth : DummyAuthenticate) {appKey : String}
    (hs : appKey.data.count '/' ≠ 2) (ha : appKey.data.count '@' ≠ 1)
    (ha' : appKey.data.count '@' ≠ 2) :
    auth.authenticate (some appKey) = (.authFailed, "", "") := by
  have h₁ := length_stringsSplit appKey '/'
  have h₂ := length_stringsSplit appKey '@'
  have hu : userOfKey appKey = none := by
    unfold userOfKey
    split
    · rename_i heq; rw [heq] at h₂; simp at h₂; omega
    · rename_i heq; rw [heq] at h₂; simp at h₂; omega
    · rfl
  simp only [DummyAuthenticate.authenticate, hu]
  split
  · rename_i heq; rw [heq] at h₁; simp at h₁; omega
  · rfl

theorem not_mem_append_at {c : Char} {a b : String} (ha : c ∉ a.data) (hb : c ∉ b.data)
    (hc : c ≠ '@') : c ∉ (a ++ "@" ++ b).data := by
  simp [ha, hb, hc]

/-- **What `Authenticate` makes of an app key.**  A key of three parts with no `/` is the edge
node it names, the key `KeyandSecretForURL` gives the sync service among them; a key
`userID@orgID` or `email@emailDomain@orgID` of parts with neither `/` nor `@` is that user,
a regular user or a sync admin by the lists of `dummy-auth.json` and an admin of the org
otherwise; and a key with a number of `/` other than two and of `@` other than one or two is
refused. -/
theorem authenticate_decodes_keys (auth : DummyAuthenticate) :
    (∀ orgID destType destID : String, '/' ∉ orgID.data → '/' ∉ destType.data →
      '/' ∉ destID.data →
      auth.authenticate (some (orgID ++ "/" ++ destType ++ "/" ++ destID)) =
        (.authEdgeNode, orgID, destType ++ "/" ++ destID)) ∧
    (∀ (config : Configuration) (cssURL url : String), cssURL.isPrefixOf url = true →
      '/' ∉ config.orgID.data → '/' ∉ config.destinationType.data →
      '/' ∉ config.destinationID.data →
      auth.authenticate (some (auth.keyandSecretForURL config cssURL url).1) =
        (.authEdgeNode, config.orgID, config.destinationType ++ "/" ++ config.destinationID)) ∧
    (∀ user orgID : String, '/' ∉ user.data → '@' ∉ user.data → '/' ∉ orgID.data →
      '@' ∉ orgID.data →
      auth.authenticate (some (user ++ "@" ++ orgID)) =
        if user ∈ auth.regularUsers then (.authUser, orgID, user)
        else if user ∈ auth.syncAdmins then (.authSyncAdmin, "", user)
        else (.authAdmin, orgID, user)) ∧
    (∀ email emailDomain orgID : String, '/' ∉ email.data → '@' ∉ email.data →
      '/' ∉ emailDomain.data → '@' ∉ emailDomain.data → '/' ∉ orgID.data → '@' ∉ orgID.data →
      let user := email ++ "@" ++ emailDomain
      auth.authenticate (some (email ++ "@" ++ emailDomain ++ "@" ++ orgID)) =
        if user ∈ auth.regularUsers then (.authUser, orgID, user)
        else if user ∈ auth.syncAdmins then (.authSyncAdmin, "", user)
        else (.authAdmin, orgID, user)) ∧
    (∀ appKey : String, appKey.data.count '/' ≠ 2 → appKey.data.count '@' ≠ 1 →
      appKey.data.count '@' ≠ 2 → auth.authenticate (some appKey) = (.authFailed, "", "")) := by
  have hslash : ('/' : Char) ≠ '@' := by decide
  refine ⟨fun _ _ _ => authenticate_edge_node auth, fun config _ _ => authenticate_keyandSecretForURL auth config,
    fun _ _ hs hu hs' ho => ?_, fun _ _ _ hs he hs' hd hs'' ho => ?_, fun _ => authenticate_failed auth⟩
  · exact authenticate_of_userOfKey auth (not_mem_append_at hs hs' hslash) (userOfKey_user hu ho)
  · exact authenticate_of_userOfKey auth
      (not_mem_append_at (not_mem_append_at hs hs' hslash) hs'' hslash) (userOfKey_email he hd ho)

/-- A node key, a user key and a key of no format, read as the node, the user and a refusal. -/
theorem authenticate_decodes_keys_examples :
    let auth : DummyAuthenticate := ⟨["alice"], []⟩
    auth.authenticate (some ("org" ++ "/" ++ "edge" ++ "/" ++ "node1")) =
        (.authEdgeNode, "org", "edge" ++ "/" ++ "node1") ∧
      auth.authenticate (some ("alice" ++ "@" ++ "org")) = (.authUser, "org", "alice") ∧
      auth.authenticate (some "org") = (.authFailed, "", "") :=
  ⟨(authenticate_decodes_keys _).1 _ _ _ (by decide) (by decide) (by decide),
    ((authenticate_decodes_keys _).2.2.1 _ _ (by decide) (by decide) (by decide) (by decide)).trans
      (by decide),
    (authenticate_decodes_keys _).2.2.2.2 _ (by decide) (by decide) (by decide)⟩

end EdgeSync
