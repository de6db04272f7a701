import TTLockConnect.Cloud.Client

/-! # The methods of a client against one body

A cloud that answers every request with status 200 and the same body, and what the methods make of
it: where the `errcode` is not zero the request has been refused, and raises. -/

namespace TTLockConnect.Cloud.Replies

open TTLockConnect.Text TTLockConnect.Async.Coroutine TTLockConnect.Async.Coroutine.Coro
open TTLockConnect.Async.Mutex TTLockConnect.Cloud.Client

/-- What a client is replied. -/
structure Response where
  tokenValid : Bool
  body : Body

namespace Response
variable (w : Response)

def http : (q : Demand HttpRequest) → Guarded Unit →
    Except PyError (Grant HttpReply q) × Guarded Unit
  | .acquire, s => (.ok (), { s with locked := true })
  | .ask (.validToken _), s => (.ok w.tokenValid, s)
  | .ask (.ensureTokenValid _), s => (.ok (), s)
  | .ask (.send _ _ _), s => (.ok 200, s)
  | .ask (.text _), s => (.ok "", s)
  | .ask (.json _), s => (.ok w.body, s)

/-- Requests are refused. -/
def Refuses : Prop := w.body.errcode.getD 0 ≠ 0

instance : Decidable w.Refuses := inferInstanceAs (Decidable (_ ≠ _))

/-- What a request comes to. -/
def outcome {β : Type} (b : β) : Except PyError β :=
  if w.Refuses then .error .requestFailed else .ok b

end Response

variable (w : Response) (client : ℕ) (verb : Verb) (path : String) (kwargs : Kwargs)
  (s : Guarded Unit)

/-- **A refused request raises**, whatever was requested. -/
theorem run_send : (send client verb path kwargs).run w.http s = (w.outcome w.body, s) := by
  have htoken : (asyncGetAccessToken client).run w.http s = (.ok (), s) := by
    cases h : w.tokenValid <;> simp [asyncGetAccessToken, ask, run_bind, Response.http, h]
  by_cases h : w.body.errcode.getD 0 = 0 <;>
    simp [send, parseResp, ask, run_bind, htoken, Response.http, Response.outcome, Response.Refuses, h]

theorem run_relay : ((relay client verb path kwargs).run w.http s).1 = w.outcome true := by
  by_cases h : w.body.errcode.getD 0 = 0 <;>
    simp [relay, withLock, release, run_bind, run_tryCatch, run_send, Response.http, Response.outcome,
      Response.Refuses, accepted, h]

theorem run_sendEkey (lockId : ℤ) (receiverUsername name : String) (startMs endMs : ℤ)
    (remarks : Option String) (remoteEnable : Option Bool) (createUser : Bool) :
    ((sendEkey client lockId receiverUsername name startMs endMs remarks remoteEnable
      createUser).run w.http s).1 = w.outcome w.body.keyId := by
  by_cases h : w.body.errcode.getD 0 = 0 <;>
    simp [sendEkey, run_bind, run_send, Response.outcome, Response.Refuses, h]

end TTLockConnect.Cloud.Replies
