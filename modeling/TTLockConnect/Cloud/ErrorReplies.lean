import TTLockConnect.Cloud.OAuth
import TTLockConnect.Cloud.Replies

/-! # Error replies

The cloud answers a failure with a good status and an `errcode`. `_parse_resp` looks at it, the login
looks for an `errmsg`, and a refresh looks at nothing: it puts the reply over the old token, so that
what the old token says of its validity is taken for news. -/

namespace TTLockConnect.Cloud.ErrorReplies

open TTLockConnect.Text TTLockConnect.Models TTLockConnect.Webhook.Records
open TTLockConnect.Diagnostics.Replies
open TTLockConnect.Async.Mutex TTLockConnect.Cloud.Client TTLockConnect.Cloud.Replies
open TTLockConnect.Cloud.OAuth

/-! ### The reply -/

/-- `errcode`, by the integer it is equal to; any other value is not zero either. -/
def errcode (lib : Library) (body : Fields) : Option ℤ :=
  (body.lookup "errcode").map fun v => (equalInt lib v).getD 1

/-- The reply is an error. -/
def IsError (lib : Library) (body : Fields) : Prop := (errcode lib body).getD 0 ≠ 0

/-- Token requests are answered with this body. -/
def answering (body : Fields) : TokenRequest := fun _ _ => .ok body

section Paths
variable (lib : Library) (py : Python) (home : CreationStep py) (impl : AuthImplementation)
  (body : Fields) (t : StoredToken)

/-- **An error reply is taken for success on no path.** -/
structure NotTaken : Prop where
  /-- `get` and `post` raise `RequestFailed`. -/
  request : ∀ (tokenValid : Bool) (b : Body), b.errcode = errcode lib body →
    ∀ (client : ℕ) (verb : Verb) (path : String) (kwargs : Kwargs) (s : Guarded Unit),
      ((send client verb path kwargs).run (Response.http ⟨tokenValid, b⟩) s).1 =
        .error .requestFailed
  /-- A login creates no entry. -/
  login : ∀ input data,
    asyncStepAuth py (answering body) impl home (some input) ≠ .ok (.entry data)
  /-- A refresh raises. -/
  refresh : ∃ e, asyncRefreshToken (answering body) impl t.fields = .error e
  /-- The stored token keeps its expiry when a refresh fails. -/
  expiry : ∀ margin now,
    (asyncEnsureTokenValid py (answering body) impl margin now t).2.expiresAt = t.expiresAt
  /-- A token that is not valid does not become valid. -/
  invalid : ∀ margin now, ¬ t.Valid margin now →
    ¬ (asyncEnsureTokenValid py (answering body) impl margin now t).2.Valid margin now

/-! ### The paths -/

theorem asyncRefreshToken_eq : asyncRefreshToken (answering body) impl t.fields =
    (item t.fields "refresh_token").map fun _ => body ∪ t.fields := by
  cases h : item t.fields "refresh_token" <;> simp [asyncRefreshToken, answering, h, Except.map] <;> rfl

/-- What the login makes of the reply. -/
theorem asyncStepAuth_eq {input : AuthInput} {tokenUrl : String}
    (hregion : REGIONS.lookup input.region = some tokenUrl) :
    asyncStepAuth py (answering body) impl home (some input) =
      match body.lookup "errmsg" with
      | some errmsg => .ok (.form [("base", errmsg)] input.region)
      | none => (home.creation body).map fun
        | some data => .entry (data.insert "region" (.str input.region))
        | none => .abort := by
  rw [asyncStepAuth, hregion]
  cases herrmsg : body.lookup "errmsg" with
  | some errmsg =>
    simp [login, answering, herrmsg, bind, Except.bind]
    rfl
  | none =>
    rcases hcreation : home.creation body with e | _ | data <;>
      simp [login, answering, herrmsg, hcreation, bind, Except.bind, Except.map] <;> rfl

/-- **A login creates an entry** if the reply has no `errmsg` and says how long it is valid. -/
theorem asyncStepAuth_entry_iff : (∃ input data,
    asyncStepAuth py (answering body) impl home (some input) = .ok (.entry data)) ↔
      body.lookup "errmsg" = none ∧ ∃ n, expiresIn py body = .ok n := by
  rw [← home.creates_iff]
  constructor
  · rintro ⟨input, data, h⟩
    cases hregion : REGIONS.lookup input.region with
    | none =>
      rw [asyncStepAuth, hregion] at h
      cases h
    | some tokenUrl =>
      rw [asyncStepAuth_eq py home impl body hregion] at h
      cases herrmsg : body.lookup "errmsg" with
      | some errmsg =>
        rw [herrmsg] at h
        cases h
      | none =>
        rw [herrmsg] at h
        rcases hcreation : home.creation body with e | _ | data'
        · rw [hcreation] at h
          cases h
        · rw [hcreation] at h
          cases h
        · exact ⟨rfl, data', rfl⟩
  · rintro ⟨herrmsg, data, hcreation⟩
    have hregion : REGIONS.lookup "eu" = some "https://euapi.ttlock.com/oauth2/token" := rfl
    refine ⟨⟨"eu", "", ""⟩, data.insert "region" (.str "eu"), ?_⟩
    rw [asyncStepAuth_eq py home impl body hregion, herrmsg, hcreation]
    rfl

/-- What the session makes of it, for a token that can be refreshed. -/
theorem refreshed_eq {v : JsonValue} (hv : t.fields.lookup "refresh_token" = some v) (now : Instant) :
    refreshed py (answering body) impl now t =
      (expiresIn py (body ∪ t.fields)).map fun n =>
        ⟨(body ∪ t.fields).insert "expires_in" (.int n), now + Duration.ofSeconds n⟩ := by
  have hitem : item t.fields "refresh_token" = .ok v := by rw [item, hv]
  rw [refreshed, asyncRefreshToken_eq, hitem]
  cases h : expiresIn py (body ∪ t.fields) with
  | error e => simp [Except.map, bind, Except.bind, h]
  | ok n =>
    simp [Except.map, bind, Except.bind, h]
    rfl

/-- **The error reply makes an expired token valid** if, over the old token, it says that it is valid
for longer than the margin. -/
theorem ensured_valid_iff {v : JsonValue} (hv : t.fields.lookup "refresh_token" = some v)
    {margin : Duration} {now : Instant} (hexpired : ¬ t.Valid margin now) :
    (asyncEnsureTokenValid py (answering body) impl margin now t).2.Valid margin now ↔
      ∃ n, expiresIn py (body ∪ t.fields) = .ok n ∧ margin < Duration.ofSeconds n := by
  rw [asyncEnsureTokenValid, if_neg hexpired, refreshed_eq py impl body t hv]
  cases h : expiresIn py (body ∪ t.fields) with
  | error e => simpa [Except.map] using hexpired
  | ok n => simp [Except.map, StoredToken.Valid]

/-- A token that cannot be refreshed is kept. -/
theorem ensured_of_no_refresh_token (hv : t.fields.lookup "refresh_token" = none)
    (margin : Duration) (now : Instant) :
    (asyncEnsureTokenValid py (answering body) impl margin now t).2 = t := by
  have hitem : item t.fields "refresh_token" = .error .keyError := by rw [item, hv]
  have hrefreshed : refreshed py (answering body) impl now t = .error .keyError := by
    rw [refreshed, asyncRefreshToken_eq, hitem]
    rfl
  rw [asyncEnsureTokenValid, hrefreshed]
  split_ifs <;> rfl

/-- Every call of the API refuses an error reply. -/
theorem send_refused {body : Fields} (hbody : IsError lib body) (tokenValid : Bool) {b : Body}
    (hb : b.errcode = errcode lib body) (client : ℕ) (verb : Verb) (path : String) (kwargs : Kwargs)
    (s : Guarded Unit) :
    ((send client verb path kwargs).run (Response.http ⟨tokenValid, b⟩) s).1 =
      .error .requestFailed := by
  have hrefuses : (Response.mk tokenValid b).Refuses := by
    unfold Response.Refuses
    rw [hb]
    exact hbody
  rw [run_send, Response.outcome, if_pos hrefuses]

theorem no_entry_iff : (∀ input data,
    asyncStepAuth py (answering body) impl home (some input) ≠ .ok (.entry data)) ↔
      (body.lookup "errmsg").isSome ∨ ¬ ∃ n, expiresIn py body = .ok n := by
  have hentry := not_congr (asyncStepAuth_entry_iff py home impl body)
  rw [not_and_or, ← ne_eq, ← Option.isSome_iff_ne_none] at hentry
  rw [← hentry, not_exists]
  exact forall_congr' fun input => not_exists.symm

theorem refresh_raises_iff : (∃ e, asyncRefreshToken (answering body) impl t.fields = .error e) ↔
    t.fields.lookup "refresh_token" = none := by
  rw [asyncRefreshToken_eq, item]
  cases t.fields.lookup "refresh_token" with
  | none => exact iff_of_true ⟨.keyError, rfl⟩ rfl
  | some v => exact iff_of_false nofun nofun

end Paths

/-! ### An expired token -/

def cpython : Python where
  intOfFloat _ := .error .valueError
  md5 := id

theorem creates_iff (token : Fields) :
    (∃ data, (Except.ok (match expiresIn cpython token with
      | .ok _ => some token
      | .error _ => none) : Except PyError (Option Fields)) = .ok (some data)) ↔
      ∃ n, expiresIn cpython token = .ok n := by
  cases expiresIn cpython token <;> simp

/-- An entry that is the token. -/
def creationStep : CreationStep cpython where
  creation token := .ok (match expiresIn cpython token with
    | .ok _ => some token
    | .error _ => none)
  creates_iff := creates_iff

def implementation : AuthImplementation := ⟨"https://euapi.ttlock.com/oauth2/token", "id", "secret"⟩

def invalidGrant : Fields := dict [("errcode", .int 10003), ("errmsg", .str "invalid grant")]

/-- A token of the documented validity that has expired. -/
def expiredToken : StoredToken where
  fields := dict [("access_token", .str "a"), ("refresh_token", .str "r"), ("expires_in", .int 7776000)]
  expiresAt := 0

/-- A token that cannot be refreshed. -/
def bareToken : StoredToken where
  fields := dict [("access_token", .str "a"), ("expires_in", .int 7776000)]
  expiresAt := 0

theorem invalidGrant_isError : IsError sampleLibrary invalidGrant := by
  unfold IsError
  decide

end TTLockConnect.Cloud.ErrorReplies
