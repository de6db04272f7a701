import TTLockConnect.Diagnostics.Replies
import Mathlib.Data.List.AList

/-! # Tokens: the login, the refresh, and the session

`TTLockAuthImplementation`, the step of the config flow that logs in, and the OAuth2 session of Home
Assistant, which asks for a refresh when its token is no longer valid and stores what comes back, with
`expires_at` as far away as its `expires_in` says. Home Assistant posts the token requests and
returns the JSON object of a response with a good status.

The session (`StoredToken`, `refreshed`, `asyncEnsureTokenValid`) is Home Assistant's own: it follows
its documentation, not code of this repository. -/

namespace TTLockConnect.Cloud.OAuth

open TTLockConnect.Text TTLockConnect.Models TTLockConnect.Webhook.Records

/-! ### Dicts -/

/-- A JSON object. -/
abbrev Fields := AList fun _ : String => JsonValue

/-- `fields[key]`. -/
def item (fields : Fields) (key : String) : Except PyError JsonValue :=
  match fields.lookup key with
  | some v => .ok v
  | none => .error .keyError

/-- A dict with these values. -/
def dict (entries : List (String × JsonValue)) : Fields :=
  entries.foldl (fun fields e => fields.insert e.1 e.2) ∅

/-! ### What lies outside -/

/-- Of Python, `int` of a float and the hex digest of a text. -/
structure Python where
  intOfFloat : String → Except PyError ℤ
  md5 : String → String

/-- `int(v)`. -/
def Python.int (py : Python) : JsonValue → Except PyError ℤ
  | .int n => .ok n
  | .bool b => .ok (if b then 1 else 0)
  | .float literal => py.intOfFloat literal
  | .str s => intDec s.toList
  | .null | .list _ | .dict _ => .error .typeError

/-- `int(token["expires_in"])`. -/
def expiresIn (py : Python) (token : Fields) : Except PyError ℤ := do
  let v ← item token "expires_in"
  py.int v

/-- `_token_request`: what is posted to which URL, and the object that comes back. -/
abbrev TokenRequest := String → Fields → Except PyError Fields

/-- `async_step_creation`: the data of an entry, or none where the flow is aborted. It takes the token
over if it can read how long the token is valid. -/
structure CreationStep (py : Python) where
  creation : Fields → Except PyError (Option Fields)
  creates_iff : ∀ token, (∃ data, creation token = .ok (some data)) ↔ ∃ n, expiresIn py token = .ok n

/-! ### `TTLockAuthImplementation` -/

structure AuthImplementation where
  tokenUrl : String
  clientId : String
  clientSecret : String
  deriving DecidableEq, Repr

section Implementation
variable (py : Python) (tokenRequest : TokenRequest) (impl : AuthImplementation)

/-- `login`. -/
def login (username password : String) : Except PyError Fields :=
  tokenRequest impl.tokenUrl
    (dict [("username", .str username), ("password", .str (py.md5 password))])

/-- `_async_refresh_token`: `{**token, **new_token}`. -/
def asyncRefreshToken (token : Fields) : Except PyError Fields := do
  let refreshToken ← item token "refresh_token"
  let newToken ← tokenRequest impl.tokenUrl
    (dict [("grant_type", .str "refresh_token"), ("client_id", .str impl.clientId),
      ("client_secret", .str impl.clientSecret), ("refresh_token", refreshToken)])
  pure (newToken ∪ token)

/-! ### The session -/

/-- A token as the entry stores it, with its `expires_at`. -/
structure StoredToken where
  fields : Fields
  expiresAt : Instant

/-- Home Assistant's `valid_token`, with a margin for clocks that differ. -/
def StoredToken.Valid (margin : Duration) (now : Instant) (t : StoredToken) : Prop :=
  now + margin < t.expiresAt

instance (margin : Duration) (now : Instant) (t : StoredToken) : Decidable (t.Valid margin now) :=
  inferInstanceAs (Decidable (_ < _))

/-- Home Assistant's `async_refresh_token`: the new token, with what it is told of its validity. -/
def refreshed (now : Instant) (t : StoredToken) : Except PyError StoredToken := do
  let newToken ← asyncRefreshToken tokenRequest impl t.fields
  let n ← expiresIn py newToken
  pure
    { fields := newToken.insert "expires_in" (.int n)
      expiresAt := now + Duration.ofSeconds n }

/-- Home Assistant's `async_ensure_token_valid`, and the token that is stored after it. -/
def asyncEnsureTokenValid (margin : Duration) (now : Instant) (t : StoredToken) :
    Except PyError Unit × StoredToken :=
  if t.Valid margin now then (.ok (), t)
  else
    match refreshed py tokenRequest impl now t with
    | .ok t' => (.ok (), t')
    | .error e => (.error e, t)

/-! ### The login of the config flow -/

/-- The URLs for tokens in `REGIONS`. -/
def REGIONS : List (String × String) :=
  [("eu", "https://euapi.ttlock.com/oauth2/token"), ("cn", "https://cnapi.ttlock.com/oauth2/token")]

structure AuthInput where
  region : String
  username : String
  password : String
  deriving DecidableEq, Repr

inductive AuthResult where
  /-- the form `auth`, with the region it proposes -/
  | form (errors : List (String × JsonValue)) (region : String)
  | entry (data : Fields)
  | abort

/-- `async_step_auth`, and behind it `async_oauth_create_entry`, which adds the region. -/
def asyncStepAuth (home : CreationStep py) : Option AuthInput → Except PyError AuthResult
  | none => pure (.form [] "eu")
  | some input =>
    match REGIONS.lookup input.region with
    | none => throw .keyError
    | some tokenUrl => do
      let session ← login py tokenRequest { impl with tokenUrl } input.username input.password
      match session.lookup "errmsg" with
      | some errmsg => pure (.form [("base", errmsg)] input.region)
      | none =>
        match ← home.creation session with
        | some data => pure (.entry (data.insert "region" (.str input.region)))
        | none => pure .abort

end Implementation

end TTLockConnect.Cloud.OAuth
